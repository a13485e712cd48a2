import FlashTicketing.CommandStreams

namespace FlashTicketing

open Relational Checked Transition ConsumerGroup

/-!
# Serving the backlog

`messages` is the sequence of stream commands that a worker sends, and
`acknowledge` ends the work on one entry.  What `messages` does follows from
what each of its commands does: `messages_rule` is the one induction over the
streams.  A call yields outstanding entries only, it does not pass over a
stream with new entries, and calls that are followed by acknowledgements empty
every stream.
-/

variable {Hash : Type}

namespace GroupedWorld

variable (world : GroupedWorld Hash)

/-! ## The calls -/

/-- A stream as Redis has it. -/
def streamAt (stream : Uuid) : Stream Hash :=
  world.world.redis.streams stream

/-- `ensure_group` for every stream. -/
def ensureGroups : List Uuid → GroupedWorld Hash → GroupedWorld Hash
  | [], world => world
  | stream :: rest, world =>
      ensureGroups rest (world.setGroup stream (world.groupOf stream))

/-- `XAUTOCLAIM` from the start of one stream. -/
def claimAt
    (stream : Uuid)
    (count : Nat)
    (now : Int) :
    List (Uuid × StreamEntry Hash) × GroupedWorld Hash :=
  let found :=
    (world.groupOf stream).claim (world.streamAt stream).ids count
      reclaimIdleMs now
  (((world.streamAt stream).entriesOf found.1).map (Prod.mk stream),
    world.setGroup stream found.2)

/-- `XREADGROUP` of what is new in one stream. -/
def readAt
    (stream : Uuid)
    (count : Nat)
    (now : Int) :
    List (Uuid × StreamEntry Hash) × GroupedWorld Hash :=
  let found :=
    (world.groupOf stream).read (world.streamAt stream).ids count now
  (((world.streamAt stream).entriesOf found.1).map (Prod.mk stream),
    world.setGroup stream found.2)

/-- Claim from one stream after the other until something is found. -/
def claimFrom
    (count : Nat)
    (now : Int) :
    List Uuid →
    GroupedWorld Hash →
    List (Uuid × StreamEntry Hash) × GroupedWorld Hash
  | [], world => ([], world)
  | stream :: rest, world =>
      let claimed := world.claimAt stream count now
      if claimed.1.isEmpty then claimFrom count now rest claimed.2
      else claimed

/-- Read all streams in one call. -/
def readFrom
    (count : Nat)
    (now : Int) :
    List Uuid →
    GroupedWorld Hash →
    List (Uuid × StreamEntry Hash) × GroupedWorld Hash
  | [], world => ([], world)
  | stream :: rest, world =>
      let found := world.readAt stream count now
      let later := readFrom count now rest found.2
      (found.1 ++ later.1, later.2)

/-- `messages`: what it yields, and the groups afterwards. -/
def messages
    (streams : List Uuid)
    (count : Nat)
    (now : Int) :
    List (Uuid × StreamEntry Hash) × GroupedWorld Hash :=
  let claimed := claimFrom count now streams (ensureGroups streams world)
  if claimed.1.isEmpty then readFrom count now streams claimed.2
  else claimed

/-- `acknowledge`: `XACK` and `XDEL` in one pipeline. -/
def acknowledge (stream : Uuid) (messageId : Nat) : GroupedWorld Hash where
  world :=
    { world.world with
      redis :=
        world.world.redis.setStream stream
          (((world.streamAt stream).ack messageId).delete messageId) }
  groups :=
    Function.update world.groups stream
      ((world.groups stream).map (·.acknowledge messageId))

/-- Every entry that was yielded is acknowledged. -/
def acknowledgeAll :
    List (Uuid × StreamEntry Hash) →
    GroupedWorld Hash →
    GroupedWorld Hash
  | [], world => world
  | delivery :: rest, world =>
      acknowledgeAll rest (world.acknowledge delivery.1 delivery.2.messageId)

/-- One batch of a worker that comes through with every entry. -/
def serve
    (streams : List Uuid)
    (count : Nat)
    (now : Int) : GroupedWorld Hash :=
  let found := world.messages streams count now
  acknowledgeAll found.1 found.2

/-- Batches at the given times. -/
def serveAll
    (streams : List Uuid)
    (count : Nat) :
    List Int →
    GroupedWorld Hash →
    GroupedWorld Hash
  | [], world => world
  | now :: later, world =>
      serveAll streams count later (world.serve streams count now)

end GroupedWorld

/-! ## What a call does, from what its commands do -/

namespace GroupedWorld

variable
  {world : GroupedWorld Hash}
  {streams : List Uuid}
  {count : Nat}
  {now : Int}

section Rule

/-- Every one of the streams has its group. -/
def Created (world : GroupedWorld Hash) (streams : List Uuid) : Prop :=
  ∀ stream ∈ streams, world.groups stream = some (world.groupOf stream)

theorem Created.setGroup
    (created : world.Created streams)
    (stream : Uuid)
    (group : Group) :
    (world.setGroup stream group).Created streams := by
  intro other member
  rw [groupOf_setGroup]
  simp only [GroupedWorld.setGroup, Function.update_apply]
  split
  · rfl
  · exact created other member

theorem created_setGroup
    (created : world.Created streams)
    (stream : Uuid)
    (group : Group) :
    (world.setGroup stream group).Created (stream :: streams) := by
  intro other member
  rcases List.mem_cons.mp member with isStream | earlier
  · subst isStream
    rw [groupOf_setGroup_self]
    exact Function.update_self _ _ _
  · exact created.setGroup stream group other earlier

theorem created_ensureGroups
    {existing : List Uuid}
    (created : world.Created existing) :
    (ensureGroups streams world).Created (existing ++ streams) := by
  induction streams generalizing world existing with
  | nil => rwa [List.append_nil]
  | cons stream rest inductionHypothesis =>
      have later :=
        inductionHypothesis
          (created_setGroup created stream (world.groupOf stream))
      intro other member
      refine later other ?_
      simp only [List.mem_append, List.mem_cons] at member ⊢
      tauto

theorem Created.claimFrom
    {others : List Uuid}
    (created : world.Created streams) :
    (claimFrom count now others world).2.Created streams := by
  induction others generalizing world with
  | nil => exact created
  | cons stream rest inductionHypothesis =>
      rw [GroupedWorld.claimFrom]
      split
      · exact inductionHypothesis (created.setGroup _ _)
      · exact created.setGroup _ _

/--
What holds of no command, of each command of a call and of what follows one
another, holds of the call.  Commands after `ensure_group` find their group.
-/
theorem messages_rule
    (relation :
      GroupedWorld Hash →
      List (Uuid × StreamEntry Hash) →
      GroupedWorld Hash →
      Prop)
    (reflexive : ∀ world, relation world [] world)
    (transitive :
      ∀ {first second third early late},
        relation first early second →
        relation second late third →
        relation first (early ++ late) third)
    (ensured :
      ∀ world stream,
        relation world []
          (world.setGroup stream (world.groupOf stream)))
    (claimed :
      ∀ world stream,
        world.groups stream = some (world.groupOf stream) →
        relation world (world.claimAt stream count now).1
          (world.claimAt stream count now).2)
    (read :
      ∀ world stream,
        world.groups stream = some (world.groupOf stream) →
        relation world (world.readAt stream count now).1
          (world.readAt stream count now).2)
    (world : GroupedWorld Hash)
    (streams : List Uuid) :
    relation world (world.messages streams count now).1
      (world.messages streams count now).2 := by
  have ensuredAll (streams : List Uuid) (world : GroupedWorld Hash) :
      relation world [] (ensureGroups streams world) := by
    induction streams generalizing world with
    | nil => exact reflexive world
    | cons stream rest inductionHypothesis =>
        exact transitive (ensured world stream) (inductionHypothesis _)
  have claimedAll
      (streams : List Uuid)
      (world : GroupedWorld Hash)
      (created : world.Created streams) :
      relation world (claimFrom count now streams world).1
        (claimFrom count now streams world).2 := by
    induction streams generalizing world with
    | nil => exact reflexive world
    | cons stream rest inductionHypothesis =>
        have first := claimed world stream (created stream List.mem_cons_self)
        rw [claimFrom]
        split
        · rename_i nothing
          rw [List.isEmpty_iff] at nothing
          rw [nothing] at first
          refine transitive first (inductionHypothesis _ ?_)
          intro other member
          exact created.setGroup _ _ other (List.mem_cons_of_mem _ member)
        · exact first
  have readAll
      (streams : List Uuid)
      (world : GroupedWorld Hash)
      (created : world.Created streams) :
      relation world (readFrom count now streams world).1
        (readFrom count now streams world).2 := by
    induction streams generalizing world with
    | nil => exact reflexive world
    | cons stream rest inductionHypothesis =>
        refine transitive
          (read world stream (created stream List.mem_cons_self))
          (inductionHypothesis _ ?_)
        intro other member
        exact created.setGroup _ _ other (List.mem_cons_of_mem _ member)
  have created : (ensureGroups streams world).Created streams := by
    have nothing : world.Created [] := by
      intro stream member
      cases member
    exact created_ensureGroups nothing
  have ready := transitive (ensuredAll streams world)
    (claimedAll streams _ created)
  rw [messages]
  split
  · rename_i nothing
    rw [List.isEmpty_iff] at nothing
    rw [nothing] at ready
    exact transitive ready (readAll streams _ created.claimFrom)
  · exact ready

end Rule

/-! ## What is yielded -/

/-- The entry was handed out long ago. -/
def Abandoned
    (world : GroupedWorld Hash)
    (now : Int)
    (stream : Uuid)
    (id : Nat) : Prop :=
  ∃ pending ∈ (world.groupOf stream).pending,
    pending.id = id ∧ reclaimIdleMs ≤ now - pending.deliveredAt

/-- Outstanding entries are yielded, and only their deliveries are renewed. -/
structure Serves
    (now : Int)
    (world : GroupedWorld Hash)
    (yielded : List (Uuid × StreamEntry Hash))
    (next : GroupedWorld Hash) : Prop where
  same : next.world = world.world
  accounts : ∀ stream, next.AccountsAt stream
  grows :
    ∀ stream,
      (world.groupOf stream).lastDelivered ≤
        (next.groupOf stream).lastDelivered
  outstanding :
    ∀ delivery ∈ yielded,
      delivery.2 ∈ (world.streamAt delivery.1).entries ∧
        delivery.2.messageId ∉ (world.streamAt delivery.1).acknowledged ∧
        delivery.2.messageId ≤
          (next.groupOf delivery.1).lastDelivered
  due :
    ∀ delivery ∈ yielded,
      world.Abandoned now delivery.1 delivery.2.messageId ∨
        (world.groupOf delivery.1).lastDelivered < delivery.2.messageId
  kept :
    ∀ stream,
      ∀ pending ∈ (next.groupOf stream).pending,
        pending ∈ (world.groupOf stream).pending ∨
          pending.deliveredAt = now ∧
            ∃ entry,
              (stream, entry) ∈ yielded ∧ entry.messageId = pending.id

namespace Serves

theorem refl
    (accounts : ∀ stream, world.AccountsAt stream) :
    Serves now world [] world :=
  ⟨rfl, accounts, fun _ => Nat.le_refl _, by simp, by simp,
    fun _ _ member => Or.inl member⟩

theorem trans
    {second third : GroupedWorld Hash}
    {early late : List (Uuid × StreamEntry Hash)}
    (first : Serves now world early second)
    (rest : Serves now second late third) :
    Serves now world (early ++ late) third where
  same := rest.same.trans first.same
  accounts := rest.accounts
  grows := fun stream =>
    Nat.le_trans (first.grows stream) (rest.grows stream)
  outstanding := by
    intro delivery member
    rcases List.mem_append.mp member with isEarly | isLate
    · obtain ⟨listed, pending, handedOut⟩ :=
        first.outstanding delivery isEarly
      exact ⟨listed, pending, Nat.le_trans handedOut (rest.grows _)⟩
    · have facts := rest.outstanding delivery isLate
      rwa [streamAt, first.same] at facts
  due := by
    intro delivery member
    rcases List.mem_append.mp member with isEarly | isLate
    · exact first.due delivery isEarly
    · rcases rest.due delivery isLate with ⟨pending, isPending, isId, old⟩ | new
      · rcases first.kept _ pending isPending with start | ⟨isNow, _⟩
        · exact Or.inl ⟨pending, start, isId, old⟩
        -- What was just handed out is not old.
        · rw [isNow, sub_self] at old
          exact absurd old (by decide)
      · exact Or.inr (Nat.lt_of_le_of_lt (first.grows _) new)
  kept := by
    intro stream pending member
    rcases rest.kept stream pending member with
      before | ⟨isNow, entry, isLate, isId⟩
    · rcases first.kept stream pending before with
        start | ⟨isNow, entry, isEarly, isId⟩
      · exact Or.inl start
      · exact Or.inr
          ⟨isNow, entry, List.mem_append_left _ isEarly, isId⟩
    · exact Or.inr ⟨isNow, entry, List.mem_append_right _ isLate, isId⟩

/-- A command changes the group of one stream. -/
theorem command
    {stream : Uuid}
    {ids : List Nat}
    {group : Group}
    (accounts : ∀ stream, world.AccountsAt stream)
    (accountsAfter :
      Accounts (world.streamAt stream).ids (world.streamAt stream).lastId
        (world.streamAt stream).acknowledged group)
    (grows : (world.groupOf stream).lastDelivered ≤ group.lastDelivered)
    (outstanding :
      ∀ id ∈ ids,
        id ∈ (world.streamAt stream).ids ∧
          id ∉ (world.streamAt stream).acknowledged ∧
          id ≤ group.lastDelivered)
    (due :
      ∀ id ∈ ids,
        world.Abandoned now stream id ∨
          (world.groupOf stream).lastDelivered < id)
    (kept :
      ∀ pending ∈ group.pending,
        pending ∈ (world.groupOf stream).pending ∨
          pending.deliveredAt = now ∧ pending.id ∈ ids) :
    Serves now world
      (((world.streamAt stream).entriesOf ids).map (Prod.mk stream))
      (world.setGroup stream group) where
  same := rfl
  accounts := by
    intro other
    rw [AccountsAt, groupOf_setGroup]
    split
    · rename_i same
      subst same
      exact accountsAfter
    · exact accounts other
  grows := by
    intro other
    rw [groupOf_setGroup]
    split
    · rename_i same
      subst same
      exact grows
    · exact Nat.le_refl _
  outstanding := by
    intro delivery member
    obtain ⟨entry, isEntry, isDelivery⟩ := List.mem_map.mp member
    subst isDelivery
    obtain ⟨listed, isId⟩ := Stream.mem_entriesOf isEntry
    rw [groupOf_setGroup_self]
    exact ⟨listed, (outstanding _ isId).2⟩
  due := by
    intro delivery member
    obtain ⟨entry, isEntry, isDelivery⟩ := List.mem_map.mp member
    subst isDelivery
    exact due _ (Stream.mem_entriesOf isEntry).2
  kept := by
    intro other pending member
    rw [groupOf_setGroup] at member
    split at member
    · rename_i same
      subst same
      refine (kept pending member).imp_right (And.imp_right fun isId => ?_)
      rw [← Stream.map_entriesOf fun id member => (outstanding id member).1,
        List.mem_map] at isId
      obtain ⟨entry, isEntry, sameId⟩ := isId
      exact ⟨entry, List.mem_map_of_mem isEntry, sameId⟩
    · exact Or.inl member

theorem ensured
    (accounts : ∀ stream, world.AccountsAt stream)
    (stream : Uuid) :
    Serves now world [] (world.setGroup stream (world.groupOf stream)) :=
  command accounts (accounts stream) (Nat.le_refl _)
    (by simp : ∀ id ∈ ([] : List Nat), _) (by simp)
    (fun _ member => Or.inl member)

theorem claimed
    (accounts : ∀ stream, world.AccountsAt stream)
    (stream : Uuid) :
    Serves now world (world.claimAt stream count now).1
      (world.claimAt stream count now).2 := by
  refine command accounts ((accounts stream).claim count reclaimIdleMs now)
    (Nat.le_refl _) (fun _ member => (accounts stream).mem_claim member) ?_
    (fun _ member => scan_kept member)
  intro id member
  obtain ⟨pending, isPending, isId, _, old⟩ := scan_claimed member
  exact Or.inl ⟨pending, isPending, isId, old⟩

theorem read
    (accounts : ∀ stream, world.AccountsAt stream)
    (stream : Uuid) :
    Serves now world (world.readAt stream count now).1
      (world.readAt stream count now).2 := by
  have accountsHere := accounts stream
  refine command accounts (accountsHere.read count now)
    (accountsHere.lastDelivered_le_read count now).1 ?_
    (fun id member => Or.inr (Accounts.mem_next member).2) ?_
  · intro id member
    obtain ⟨listed, new⟩ := Accounts.mem_next member
    refine ⟨listed, fun isAcknowledged => ?_,
      accountsHere.le_lastDelivered member⟩
    exact absurd new (Nat.not_lt.mpr
      (accountsHere.acknowledgedBefore id isAcknowledged))
  · intro pending member
    rcases List.mem_append.mp member with old | new
    · exact Or.inl old
    · obtain ⟨id, isNext, isPending⟩ := List.mem_map.mp new
      exact Or.inr (isPending ▸ ⟨rfl, isNext⟩)

/-- A call of `messages`. -/
theorem messages
    (accounts : ∀ stream, world.AccountsAt stream) :
    Serves now world (world.messages streams count now).1
      (world.messages streams count now).2 :=
  messages_rule
    (fun world yielded next =>
      (∀ stream, world.AccountsAt stream) → Serves now world yielded next)
    (fun _ accounts => refl accounts)
    (fun first rest accounts =>
      (first accounts).trans (rest (first accounts).accounts))
    (fun _ stream accounts => ensured accounts stream)
    (fun _ stream _ accounts => claimed accounts stream)
    (fun _ stream _ accounts => read accounts stream)
    world streams accounts

end Serves

/-! ## A call is a run -/

section Performs

variable
  [DecidableEq Hash]
  {self : PostgresReservations Hash}
  {intake : RedisReservationIntake Hash}

/-- No writer is in the slot or in a later one. -/
def IdleFrom (world : GroupedWorld Hash) (slot : Nat) : Prop :=
  ∀ later, slot ≤ later → world.world.writers later = none

/-- Entries go to one slot after the other. -/
def handOut
    (slot : Nat)
    (yielded : List (Uuid × StreamEntry Hash)) : List (Action Hash) :=
  (yielded.zipIdx slot).map fun delivery =>
    .deliver delivery.2 delivery.1.1 delivery.1.2

/-- Entries with the slots they go to. -/
def placed
    (slot : Nat)
    (entries : List (StreamEntry Hash)) : List (Nat × StreamEntry Hash) :=
  (entries.zipIdx slot).map Prod.swap

omit [DecidableEq Hash] in
theorem placed_fst (slot : Nat) (entries : List (StreamEntry Hash)) :
    (placed slot entries).map Prod.fst =
      List.range' slot entries.length := by
  rw [placed, List.map_map]
  exact List.zipIdx_map_snd slot entries

omit [DecidableEq Hash] in
theorem placed_snd (slot : Nat) (entries : List (StreamEntry Hash)) :
    (placed slot entries).map Prod.snd = entries := by
  rw [placed, List.map_map]
  exact List.zipIdx_map_fst slot entries

omit [DecidableEq Hash] in
theorem writers_receive_of_not_mem
    {system : World Hash}
    {stream : Uuid}
    {received : List (Nat × StreamEntry Hash)}
    {slot : Nat}
    (unused : slot ∉ received.map Prod.fst) :
    (system.receive stream received).writers slot = system.writers slot := by
  induction received generalizing system with
  | nil => rfl
  | cons delivery rest inductionHypothesis =>
      rw [List.map_cons, List.mem_cons, not_or] at unused
      exact (inductionHypothesis unused.2).trans
        (Function.update_of_ne unused.1 _ _)

/-- Where slots are free, the commands run and hand out what is yielded. -/
def Performs
    (self : PostgresReservations Hash)
    (intake : RedisReservationIntake Hash)
    (world : GroupedWorld Hash)
    (yielded : List (Uuid × StreamEntry Hash))
    (next : GroupedWorld Hash) : Prop :=
  next.world = world.world ∧
    ∀ {start slot},
      start.groups = world.groups →
      start.world.redis = world.world.redis →
      start.IdleFrom slot →
      ∃ labels final,
        Run (GroupedWorld.Step self intake) start labels final ∧
          final.groups = next.groups ∧
          final.world.redis = world.world.redis ∧
          final.IdleFrom (slot + yielded.length) ∧
          labels.flatMap GroupedAction.actions = handOut slot yielded

namespace Performs

theorem refl (world : GroupedWorld Hash) :
    world.Performs self intake [] world := by
  refine ⟨rfl, fun {start slot} groups redis idle => ?_⟩
  exact ⟨[], start, .nil start, groups, redis, idle, rfl⟩

theorem trans
    {second third : GroupedWorld Hash}
    {early late : List (Uuid × StreamEntry Hash)}
    (first : world.Performs self intake early second)
    (rest : second.Performs self intake late third) :
    world.Performs self intake (early ++ late) third := by
  refine ⟨rest.1.trans first.1, fun {start slot} groups redis idle => ?_⟩
  obtain ⟨labels, middle, earlyRun, middleGroups, middleRedis, middleIdle,
    isEarly⟩ := first.2 groups redis idle
  obtain ⟨others, final, lateRun, finalGroups, finalRedis, finalIdle,
    isLate⟩ := rest.2 middleGroups (by rw [middleRedis, first.1]) middleIdle
  refine ⟨labels ++ others, final, earlyRun.append lateRun, finalGroups,
    by rw [finalRedis, first.1], ?_, ?_⟩
  · rwa [List.length_append, ← Nat.add_assoc]
  · rw [List.flatMap_append, isEarly, isLate, handOut, handOut, handOut,
      List.zipIdx_append, List.map_append]

theorem ensured (world : GroupedWorld Hash) (stream : Uuid) :
    world.Performs self intake []
      (world.setGroup stream (world.groupOf stream)) := by
  refine ⟨rfl, fun {start slot} groups redis idle => ?_⟩
  refine ⟨[.ensureGroup stream], _, .single .ensureGroup, ?_, redis, idle,
    rfl⟩
  simp only [setGroup, groupOf, groups]

/-- A command that hands out entries, each to a slot of its own. -/
theorem command
    {stream : Uuid}
    {ids : List Nat}
    {group : Group}
    (step :
      ∀ {start : GroupedWorld Hash} {received},
        start.groups = world.groups →
        start.world.redis = world.world.redis →
        start.Receives stream ids received →
        ∃ label : GroupedAction Hash,
          label.actions = deliveries stream received ∧
            start.Step self intake label
              ({ start with
                world := start.world.receive stream received }.setGroup
                  stream group)) :
    world.Performs self intake
      (((world.streamAt stream).entriesOf ids).map (Prod.mk stream))
      (world.setGroup stream group) := by
  refine ⟨rfl, fun {start slot} groups redis idle => ?_⟩
  have slots :
      (placed slot ((world.streamAt stream).entriesOf ids)).map Prod.fst =
        List.range' slot ((world.streamAt stream).entriesOf ids).length :=
    placed_fst _ _
  have receives :
      start.Receives stream ids
        (placed slot ((world.streamAt stream).entriesOf ids)) := by
    refine ⟨?_, ?_, ?_⟩
    · rw [placed_snd, streamAt, redis]
    · rw [slots]
      exact List.nodup_range'
    · intro delivery member
      have isSlot := List.mem_map_of_mem (f := Prod.fst) member
      rw [slots, List.mem_range'_1] at isSlot
      exact idle delivery.1 isSlot.1
  obtain ⟨label, isLabel, taken⟩ := step groups redis receives
  refine ⟨[label], _, .single taken, ?_, ?_, ?_, ?_⟩
  · simp only [setGroup, groups]
  · exact (redis_receive _ _ _).trans redis
  · intro later isLater
    rw [List.length_map] at isLater
    have unused :
        later ∉ (placed slot
          ((world.streamAt stream).entriesOf ids)).map Prod.fst := by
      rw [slots, List.mem_range'_1]
      omega
    exact (writers_receive_of_not_mem unused).trans
      (idle later (by omega))
  · rw [List.flatMap_singleton, isLabel, deliveries, placed, handOut,
      List.zipIdx_map, List.map_map, List.map_map]
    rfl

theorem claimed
    {stream : Uuid}
    (created : world.groups stream = some (world.groupOf stream)) :
    world.Performs self intake (world.claimAt stream count now).1
      (world.claimAt stream count now).2 := by
  refine command fun {start received} groups redis receives => ?_
  refine ⟨.claim stream count now received, rfl, ?_⟩
  rw [streamAt, ← redis] at receives ⊢
  exact .claim (groups ▸ created) receives

theorem read
    {stream : Uuid}
    (created : world.groups stream = some (world.groupOf stream)) :
    world.Performs self intake (world.readAt stream count now).1
      (world.readAt stream count now).2 := by
  refine command fun {start received} groups redis receives => ?_
  refine ⟨.read stream count now received, rfl, ?_⟩
  rw [streamAt, ← redis] at receives ⊢
  exact .read (groups ▸ created) receives

/-- A call of `messages` is a run of its commands. -/
theorem messages :
    world.Performs self intake (world.messages streams count now).1
      (world.messages streams count now).2 :=
  messages_rule (Performs self intake)
    refl trans ensured (fun _ _ => claimed) (fun _ _ => read) world streams

end Performs

end Performs

/-! ## No stream is passed over -/

theorem groupOf_ensureGroups (stream : Uuid) :
    (ensureGroups streams world).groupOf stream = world.groupOf stream := by
  induction streams generalizing world with
  | nil => rfl
  | cons first rest inductionHypothesis =>
      rw [ensureGroups, inductionHypothesis, groupOf_setGroup]
      split
      · rename_i same
        rw [same]
      · rfl

theorem world_ensureGroups :
    (ensureGroups streams world).world = world.world := by
  induction streams generalizing world with
  | nil => rfl
  | cons first rest inductionHypothesis =>
      rw [ensureGroups, inductionHypothesis]
      rfl

theorem accounts_ensureGroups
    (accounts : ∀ stream, world.AccountsAt stream)
    (stream : Uuid) :
    (ensureGroups streams world).AccountsAt stream := by
  rw [AccountsAt, groupOf_ensureGroups, world_ensureGroups]
  exact accounts stream

/-- Claims hand out nothing for the first time. -/
theorem claimFrom_frame (stream : Uuid) :
    (claimFrom count now streams world).2.world = world.world ∧
      ((claimFrom count now streams world).2.groupOf stream).lastDelivered =
        (world.groupOf stream).lastDelivered := by
  induction streams generalizing world with
  | nil => exact ⟨rfl, rfl⟩
  | cons first rest inductionHypothesis =>
      have kept :
          ((world.claimAt first count now).2.groupOf stream).lastDelivered =
            (world.groupOf stream).lastDelivered := by
        rw [claimAt, groupOf_setGroup]
        split
        · rename_i same
          rw [same]
          rfl
        · rfl
      rw [claimFrom]
      split
      · obtain ⟨sameWorld, sameLast⟩ :=
          @inductionHypothesis (world.claimAt first count now).2
        exact ⟨sameWorld, sameLast.trans kept⟩
      · exact ⟨rfl, kept⟩

/-- A claim finds something where all deliveries are old. -/
theorem claimAt_ne_nil
    {stream : Uuid}
    (accounts : world.AccountsAt stream)
    (positive : 0 < count)
    (old :
      ∀ pending ∈ (world.groupOf stream).pending,
        reclaimIdleMs ≤ now - pending.deliveredAt)
    (waiting : (world.groupOf stream).pending ≠ []) :
    (world.claimAt stream count now).1 ≠ [] := by
  obtain ⟨more, isMore⟩ := Nat.exists_eq_add_one_of_ne_zero positive.ne'
  subst isMore
  have found :
      ((world.groupOf stream).claim (world.streamAt stream).ids (more + 1)
        reclaimIdleMs now).1 ≠ [] :=
    scan_ne_nil accounts.listed old waiting
  have listed :
      ∀ id ∈ ((world.groupOf stream).claim (world.streamAt stream).ids
          (more + 1) reclaimIdleMs now).1,
        id ∈ (world.streamAt stream).ids :=
    fun id member => (accounts.mem_claim member).1
  rw [← Stream.map_entriesOf listed] at found
  intro nothing
  rw [claimAt, List.map_eq_nil_iff] at nothing
  rw [nothing] at found
  exact found rfl

/-- Deliveries that are all recent are left alone. -/
theorem claimFrom_eq_nil
    (recent :
      ∀ stream ∈ streams,
        ∀ pending ∈ (world.groupOf stream).pending,
          now - pending.deliveredAt < reclaimIdleMs) :
    (claimFrom count now streams world).1 = [] := by
  induction streams generalizing world with
  | nil => rfl
  | cons first rest inductionHypothesis =>
      have nothing :
          ((world.groupOf first).claim (world.streamAt first).ids count
            reclaimIdleMs now).1 = [] := by
        rw [List.eq_nil_iff_forall_not_mem]
        intro id member
        obtain ⟨pending, isPending, _, _, old⟩ := scan_claimed member
        exact absurd (recent first List.mem_cons_self pending isPending)
          (not_lt.mpr old)
      have empty : (world.claimAt first count now).1 = [] := by
        simp only [claimAt, nothing]
        rfl
      rw [claimFrom, if_pos (by rw [empty]; rfl)]
      refine inductionHypothesis fun stream member pending isPending => ?_
      rw [claimAt, groupOf_setGroup] at isPending
      split at isPending
      · rename_i same
        rcases scan_kept isPending with old | ⟨_, isClaimed⟩
        · exact recent first List.mem_cons_self pending old
        · rw [Group.claim] at nothing
          rw [nothing] at isClaimed
          cases isClaimed
      · exact recent stream (List.mem_cons_of_mem _ member) pending isPending

/-- Every stream is read. -/
theorem mem_readFrom
    {stream : Uuid}
    {id : Nat}
    (member : stream ∈ streams)
    (isNext :
      id ∈ (world.groupOf stream).next (world.streamAt stream).ids count) :
    ∃ entry,
      (stream, entry) ∈ (readFrom count now streams world).1 ∧
        entry.messageId = id := by
  induction streams generalizing world with
  | nil => cases member
  | cons first rest inductionHypothesis =>
      by_cases isFirst : stream = first
      · subst isFirst
        have listed :
            ∀ other ∈ (world.groupOf stream).next
                (world.streamAt stream).ids count,
              other ∈ (world.streamAt stream).ids :=
          fun other member => (Accounts.mem_next member).1
        rw [← Stream.map_entriesOf listed, List.mem_map] at isNext
        obtain ⟨entry, isEntry, isId⟩ := isNext
        exact ⟨entry,
          List.mem_append_left _ (List.mem_map_of_mem isEntry), isId⟩
      · have later := (List.mem_cons.mp member).resolve_left isFirst
        have sameGroup :
            (world.readAt first count now).2.groupOf stream =
              world.groupOf stream := by
          rw [readAt, groupOf_setGroup, if_neg isFirst]
        rw [← sameGroup] at isNext
        obtain ⟨entry, isEntry, isId⟩ := inductionHypothesis later isNext
        exact ⟨entry, List.mem_append_right _ isEntry, isId⟩

/-- Pending work that is all old is found, wherever it is. -/
theorem claimFrom_ne_nil
    {stream : Uuid}
    (accounts : ∀ stream, world.AccountsAt stream)
    (positive : 0 < count)
    (old :
      ∀ stream,
        ∀ pending ∈ (world.groupOf stream).pending,
          reclaimIdleMs ≤ now - pending.deliveredAt)
    (member : stream ∈ streams)
    (waiting : (world.groupOf stream).pending ≠ []) :
    (claimFrom count now streams world).1 ≠ [] := by
  induction streams generalizing world with
  | nil => cases member
  | cons first rest inductionHypothesis =>
      rw [claimFrom]
      split
      · rename_i nothing
        rw [List.isEmpty_iff] at nothing
        have isLater : stream ≠ first := by
          intro same
          subst same
          exact claimAt_ne_nil (accounts stream) positive (old stream) waiting
            nothing
        have serves : Serves now world (world.claimAt first count now).1
            (world.claimAt first count now).2 := .claimed accounts first
        rw [nothing] at serves
        refine inductionHypothesis serves.accounts ?_
          ((List.mem_cons.mp member).resolve_left isLater) ?_
        · intro other pending isPending
          rcases serves.kept other pending isPending with
            before | ⟨_, entry, isYielded, _⟩
          · exact old other pending before
          · cases isYielded
        · rw [claimAt, groupOf_setGroup, if_neg isLater]
          exact waiting
      · rename_i something
        rwa [List.isEmpty_iff] at something

/-- Without abandoned deliveries a call reads every stream. -/
theorem mem_messages
    {stream : Uuid}
    {id : Nat}
    (nothing :
      (claimFrom count now streams (ensureGroups streams world)).1 = [])
    (member : stream ∈ streams)
    (isNext :
      id ∈ (world.groupOf stream).next (world.streamAt stream).ids count) :
    ∃ entry,
      (stream, entry) ∈ (world.messages streams count now).1 ∧
        entry.messageId = id := by
  obtain ⟨sameWorld, sameLast⟩ :=
    @claimFrom_frame Hash (ensureGroups streams world) streams count now stream
  rw [messages, if_pos (by rw [nothing]; rfl)]
  refine mem_readFrom member ?_
  rw [world_ensureGroups] at sameWorld
  rw [groupOf_ensureGroups] at sameLast
  rwa [streamAt, sameWorld, Group.next, sameLast]

/-- A call yields something as long as something is outstanding. -/
theorem messages_ne_nil
    {stream : Uuid}
    {id : Nat}
    (accounts : ∀ stream, world.AccountsAt stream)
    (positive : 0 < count)
    (old :
      ∀ stream,
        ∀ pending ∈ (world.groupOf stream).pending,
          reclaimIdleMs ≤ now - pending.deliveredAt)
    (member : stream ∈ streams)
    (listed : id ∈ (world.streamAt stream).ids)
    (unacknowledged : id ∉ (world.streamAt stream).acknowledged) :
    (world.messages streams count now).1 ≠ [] := by
  by_cases nothing :
      (claimFrom count now streams (ensureGroups streams world)).1 = []
  · have noPending : (world.groupOf stream).pending = [] := by
      by_contra waiting
      refine claimFrom_ne_nil (accounts_ensureGroups accounts) positive ?_
        member ?_ nothing
      · intro other pending isPending
        rw [groupOf_ensureGroups] at isPending
        exact old other pending isPending
      · rwa [groupOf_ensureGroups]
    have new : (world.groupOf stream).lastDelivered < id := by
      have waiting :=
        (accounts stream).outstanding_iff.mp ⟨listed, unacknowledged⟩
      rw [noPending] at waiting
      exact (waiting.resolve_left (by simp)).2
    have nonempty :
        (world.groupOf stream).next (world.streamAt stream).ids count ≠ [] := by
      intro empty
      rw [Group.next, List.take_eq_nil_iff] at empty
      have isNew :
          id ∈ (world.streamAt stream).ids.filter fun id =>
            decide ((world.groupOf stream).lastDelivered < id) :=
        List.mem_filter.mpr ⟨listed, by simpa using new⟩
      rw [empty.resolve_left positive.ne'] at isNew
      cases isNew
    obtain ⟨first, isFirst⟩ := List.exists_mem_of_ne_nil _ nonempty
    have yielded :
        ∃ entry,
          (stream, entry) ∈ (world.messages streams count now).1 ∧
            entry.messageId = first :=
      mem_messages nothing member isFirst
    obtain ⟨entry, isYielded, _⟩ := yielded
    exact List.ne_nil_of_mem isYielded
  · rw [messages, if_neg (by rwa [List.isEmpty_iff])]
    exact nothing

/-! ## Acknowledgements -/

theorem groupOf_acknowledge
    (stream other : Uuid)
    (messageId : Nat) :
    (world.acknowledge stream messageId).groupOf other =
      if other = stream then (world.groupOf other).acknowledge messageId
      else world.groupOf other := by
  simp only [acknowledge, groupOf, Function.update_apply]
  split
  · rename_i same
    subst same
    cases world.groups other <;> rfl
  · rfl

theorem streamAt_acknowledge
    (stream other : Uuid)
    (messageId : Nat) :
    (world.acknowledge stream messageId).streamAt other =
      if other = stream
      then ((world.streamAt other).ack messageId).delete messageId
      else world.streamAt other := by
  simp only [acknowledge, streamAt, Redis.setStream, Function.update_apply]
  split
  · rename_i same
    rw [same]
  · rfl

theorem accounts_acknowledge
    {stream : Uuid}
    {messageId : Nat}
    (accounts : ∀ stream, world.AccountsAt stream)
    (handedOut : messageId ≤ (world.groupOf stream).lastDelivered)
    (other : Uuid) :
    (world.acknowledge stream messageId).AccountsAt other := by
  have isStream :=
    @streamAt_acknowledge Hash world stream other messageId
  rw [AccountsAt, groupOf_acknowledge]
  simp only [streamAt] at isStream
  rw [isStream]
  split
  · rename_i same
    subst same
    rw [Stream.ids_delete]
    exact ((accounts other).acknowledge handedOut).delete List.mem_cons_self
  · exact accounts other

/-- The entries of a stream that are not acknowledged. -/
def outstandingAt (world : GroupedWorld Hash) (stream : Uuid) : List Nat :=
  (world.streamAt stream).ids.filter fun id =>
    decide (id ∉ (world.streamAt stream).acknowledged)

/-- The number of such entries in all the streams. -/
def backlog (world : GroupedWorld Hash) (streams : List Uuid) : Nat :=
  (streams.map fun stream => (world.outstandingAt stream).length).sum

theorem mem_outstandingAt
    {stream : Uuid}
    {id : Nat} :
    id ∈ world.outstandingAt stream ↔
      id ∈ (world.streamAt stream).ids ∧
        id ∉ (world.streamAt stream).acknowledged := by
  rw [outstandingAt, List.mem_filter, decide_eq_true_iff]

/-- An acknowledged entry is no longer outstanding, and others still are. -/
theorem outstandingAt_acknowledge
    (stream other : Uuid)
    (messageId : Nat) :
    (world.acknowledge stream messageId).outstandingAt other =
      if other = stream
      then (world.outstandingAt other).filter fun id =>
        decide (id ≠ messageId)
      else world.outstandingAt other := by
  rw [outstandingAt, streamAt_acknowledge]
  split
  · rw [Stream.ids_delete, outstandingAt, List.filter_filter,
      List.filter_filter]
    refine List.filter_congr fun id _ => ?_
    simp only [Stream.ack, Stream.delete, List.mem_cons, not_or]
    by_cases same : id = messageId <;> simp [same]
  · rfl

theorem outstandingAt_acknowledgeAll_sublist
    (yielded : List (Uuid × StreamEntry Hash))
    (stream : Uuid) :
    List.Sublist ((acknowledgeAll yielded world).outstandingAt stream)
      (world.outstandingAt stream) := by
  induction yielded generalizing world with
  | nil => exact List.Sublist.refl _
  | cons delivery rest inductionHypothesis =>
      refine inductionHypothesis.trans ?_
      rw [outstandingAt_acknowledge]
      split
      · exact List.filter_sublist
      · exact List.Sublist.refl _

theorem backlog_le
    {next : GroupedWorld Hash}
    (shrinks :
      ∀ stream,
        List.Sublist (next.outstandingAt stream)
          (world.outstandingAt stream)) :
    next.backlog streams ≤ world.backlog streams :=
  List.sum_le_sum fun stream _ => (shrinks stream).length_le

/-- Acknowledging outstanding entries reduces the backlog. -/
theorem backlog_acknowledgeAll_lt
    {yielded : List (Uuid × StreamEntry Hash)}
    (nonempty : yielded ≠ [])
    (outstanding :
      ∀ delivery ∈ yielded,
        delivery.2.messageId ∈ world.outstandingAt delivery.1)
    (covers :
      ∀ stream, world.outstandingAt stream ≠ [] → stream ∈ streams) :
    (acknowledgeAll yielded world).backlog streams <
      world.backlog streams := by
  cases yielded with
  | nil => exact absurd rfl nonempty
  | cons delivery rest =>
      have isOutstanding := outstanding delivery List.mem_cons_self
      have first (stream : Uuid) :=
        @outstandingAt_acknowledge Hash world delivery.1 stream
          delivery.2.messageId
      refine Nat.lt_of_le_of_lt
        (backlog_le fun stream =>
          outstandingAt_acknowledgeAll_sublist rest stream) ?_
      refine List.sum_lt_sum _ _ ?_ ⟨delivery.1, ?_, ?_⟩
      · intro stream _
        rw [first stream]
        split
        · exact List.length_filter_le _ _
        · exact Nat.le_refl _
      · exact covers _ (List.ne_nil_of_mem isOutstanding)
      · rw [first delivery.1, if_pos rfl]
        exact List.length_filter_lt_length_iff_exists.mpr
          ⟨_, isOutstanding, by simp⟩

theorem accounts_acknowledgeAll
    {yielded : List (Uuid × StreamEntry Hash)}
    (accounts : ∀ stream, world.AccountsAt stream)
    (handedOut :
      ∀ delivery ∈ yielded,
        delivery.2.messageId ≤ (world.groupOf delivery.1).lastDelivered)
    (stream : Uuid) :
    (acknowledgeAll yielded world).AccountsAt stream := by
  induction yielded generalizing world with
  | nil => exact accounts stream
  | cons delivery rest inductionHypothesis =>
      refine inductionHypothesis
        (accounts_acknowledge accounts (handedOut delivery List.mem_cons_self))
        fun other member => ?_
      have before := handedOut other (List.mem_cons_of_mem _ member)
      rw [groupOf_acknowledge]
      split
      · exact before
      · exact before

/-- What is still pending was pending, and was not acknowledged. -/
theorem pending_acknowledgeAll
    {yielded : List (Uuid × StreamEntry Hash)}
    {stream : Uuid}
    {pending : Pending}
    (member :
      pending ∈ ((acknowledgeAll yielded world).groupOf stream).pending) :
    pending ∈ (world.groupOf stream).pending ∧
      ∀ entry, (stream, entry) ∈ yielded → entry.messageId ≠ pending.id := by
  induction yielded generalizing world with
  | nil => exact ⟨member, by simp⟩
  | cons delivery rest inductionHypothesis =>
      obtain ⟨before, others⟩ := inductionHypothesis member
      rw [groupOf_acknowledge] at before
      split at before
      · rename_i same
        obtain ⟨earlier, isOther⟩ := List.mem_filter.mp before
        rw [decide_eq_true_iff] at isOther
        refine ⟨earlier, fun entry isYielded => ?_⟩
        rcases List.mem_cons.mp isYielded with isFirst | later
        · rw [← isFirst] at isOther
          exact isOther.symm
        · exact others entry later
      · rename_i otherStream
        refine ⟨before, fun entry isYielded => ?_⟩
        rcases List.mem_cons.mp isYielded with isFirst | later
        · exact absurd (congrArg Prod.fst isFirst) otherStream
        · exact others entry later

/-! ## Batches -/

/-- Every pending delivery is old at the given time. -/
def AllOld (world : GroupedWorld Hash) (now : Int) : Prop :=
  ∀ stream,
    ∀ pending ∈ (world.groupOf stream).pending,
      reclaimIdleMs ≤ now - pending.deliveredAt

section Serve

variable
  (accounts : ∀ stream, world.AccountsAt stream)

include accounts

theorem accounts_serve (stream : Uuid) :
    (world.serve streams count now).AccountsAt stream := by
  have serves : Serves now world (world.messages streams count now).1
      (world.messages streams count now).2 := .messages accounts
  exact accounts_acknowledgeAll serves.accounts
    (fun delivery member => (serves.outstanding delivery member).2.2) stream

/-- A batch leaves no new pending deliveries. -/
theorem AllOld.serve
    {later : Int}
    (old : world.AllOld later) :
    (world.serve streams count now).AllOld later := by
  have serves : Serves now world (world.messages streams count now).1
      (world.messages streams count now).2 := .messages accounts
  intro stream pending member
  obtain ⟨before, unserved⟩ := pending_acknowledgeAll member
  rcases serves.kept stream pending before with
    start | ⟨_, entry, isYielded, isId⟩
  · exact old stream pending start
  · exact absurd isId (unserved entry isYielded)

theorem outstandingAt_messages (stream : Uuid) :
    (world.messages streams count now).2.outstandingAt stream =
      world.outstandingAt stream := by
  have serves : Serves now world (world.messages streams count now).1
      (world.messages streams count now).2 := .messages accounts
  rw [outstandingAt, streamAt, serves.same]
  rfl

theorem outstandingAt_serve_sublist (stream : Uuid) :
    List.Sublist ((world.serve streams count now).outstandingAt stream)
      (world.outstandingAt stream) := by
  rw [← outstandingAt_messages accounts stream]
  exact outstandingAt_acknowledgeAll_sublist _ stream

/-- A batch gets something done as long as there is something to do. -/
theorem backlog_serve_lt
    (positive : 0 < count)
    (old : world.AllOld now)
    (covers :
      ∀ stream, world.outstandingAt stream ≠ [] → stream ∈ streams)
    (busy : world.backlog streams ≠ 0) :
    (world.serve streams count now).backlog streams <
      world.backlog streams := by
  have serves : Serves now world (world.messages streams count now).1
      (world.messages streams count now).2 := .messages accounts
  have sameBacklog :
      (world.messages streams count now).2.backlog streams =
        world.backlog streams := by
    simp only [backlog, outstandingAt_messages accounts]
  rw [← sameBacklog]
  refine backlog_acknowledgeAll_lt ?_ ?_ ?_
  · -- Some stream has an outstanding entry.
    obtain ⟨length, isLength, positiveLength⟩ :=
      List.sum_pos_iff_exists_pos_nat.mp (Nat.pos_of_ne_zero busy)
    obtain ⟨stream, member, hasLength⟩ := List.mem_map.mp isLength
    rw [← hasLength] at positiveLength
    obtain ⟨id, isOutstanding⟩ := List.exists_mem_of_length_pos positiveLength
    obtain ⟨listed, unacknowledged⟩ := mem_outstandingAt.mp isOutstanding
    exact messages_ne_nil accounts positive old member listed unacknowledged
  · intro delivery member
    obtain ⟨listed, unacknowledged, _⟩ := serves.outstanding delivery member
    rw [outstandingAt_messages accounts, mem_outstandingAt]
    exact ⟨List.mem_map_of_mem listed, unacknowledged⟩
  · intro stream
    rw [outstandingAt_messages accounts]
    exact covers stream

end Serve

/-- Enough batches leave nothing outstanding. -/
theorem serveAll_spec
    {times : List Int}
    (accounts : ∀ stream, world.AccountsAt stream)
    (positive : 0 < count)
    (old : ∀ now ∈ times, world.AllOld now)
    (covers :
      ∀ stream, world.outstandingAt stream ≠ [] → stream ∈ streams)
    (enough : world.backlog streams ≤ times.length)
    (stream : Uuid) :
    (serveAll streams count times world).outstandingAt stream = [] := by
  induction times generalizing world with
  | nil =>
      have nothing := Nat.le_zero.mp enough
      rw [backlog, List.sum_eq_zero_iff_forall_eq_nat] at nothing
      by_contra busy
      exact busy (List.length_eq_zero_iff.mp
        (nothing _ (List.mem_map_of_mem (covers stream busy))))
  | cons now later inductionHypothesis =>
      have shrinks (stream : Uuid) :=
        @outstandingAt_serve_sublist Hash world streams count now accounts
          stream
      refine inductionHypothesis (accounts_serve accounts) ?_ ?_ ?_
      · intro time member
        exact (old time (List.mem_cons_of_mem _ member)).serve accounts
      · intro other busy
        refine covers other fun nothing => busy ?_
        exact List.sublist_nil.mp (nothing ▸ shrinks other)
      · by_cases busy : world.backlog streams = 0
        · have le :
              (world.serve streams count now).backlog streams ≤
                world.backlog streams := backlog_le shrinks
          omega
        · have lt := backlog_serve_lt accounts positive
            (old now List.mem_cons_self) covers busy
          rw [List.length_cons] at enough
          omega

/-! ## Whole runs -/

section Runs

variable
  [DecidableEq Hash]
  {self : PostgresReservations Hash}
  {intake : RedisReservationIntake Hash}
  {before next : GroupedWorld Hash}
  {labels : List (GroupedAction Hash)}

omit [DecidableEq Hash] in
theorem IdleFrom.receive
    {system : World Hash}
    {slot : Nat}
    (stream : Uuid)
    (received : List (Nat × StreamEntry Hash))
    (idle : ∀ later, slot ≤ later → system.writers later = none) :
    ∃ bound,
      ∀ later,
        bound ≤ later →
        (system.receive stream received).writers later = none := by
  induction received generalizing system slot with
  | nil => exact ⟨slot, idle⟩
  | cons delivery rest inductionHypothesis =>
      refine @inductionHypothesis _ (max slot (delivery.1 + 1))
        fun later isLater => ?_
      have after : delivery.1 < later := by omega
      refine (Function.update_of_ne after.ne' _ _).trans (idle later ?_)
      omega

/-- There are always slots without a writer. -/
theorem Step.idleFrom
    {label : GroupedAction Hash}
    (step : world.Step self intake label next)
    (idle : ∃ slot, world.IdleFrom slot) :
    ∃ slot, next.IdleFrom slot := by
  obtain ⟨slot, idle⟩ := idle
  cases step with
  | other taken undelivered =>
      refine ⟨slot, fun later isLater => ?_⟩
      by_contra working
      obtain ⟨writer, isWriter⟩ := Option.ne_none_iff_exists'.mp working
      obtain ⟨earlier, was, _⟩ := taken.writer_before undelivered isWriter
      rw [idle later isLater] at was
      cases was
  | ensureGroup => exact ⟨slot, idle⟩
  | claim | read => exact IdleFrom.receive _ _ idle

omit [DecidableEq Hash] in
theorem Initial.idleFrom (initial : world.Initial) : world.IdleFrom 0 := by
  intro later _
  rw [initial.system.idle]

/--
A call of `messages` is a run of stream commands that hands out what it
yields: entries that are not acknowledged and that were either handed out at
least thirty seconds ago or never.  When no delivery is that old it yields the
next entries of every stream.
-/
theorem messages_serve
    (initial : before.Initial)
    (run : Run (GroupedWorld.Step self intake) before labels next)
    (streams : List Uuid)
    (count : Nat)
    (now : Int) :
    (∃ slot commands final,
      Run (GroupedWorld.Step self intake) next commands final ∧
        final.groups = (next.messages streams count now).2.groups ∧
        final.world.redis = next.world.redis ∧
        commands.flatMap GroupedAction.actions =
          handOut slot (next.messages streams count now).1) ∧
      (∀ stream entry,
        (stream, entry) ∈ (next.messages streams count now).1 →
        entry ∈ (next.streamAt stream).entries ∧
          entry.messageId ∉ (next.streamAt stream).acknowledged ∧
          (next.Abandoned now stream entry.messageId ∨
            (next.groupOf stream).lastDelivered < entry.messageId)) ∧
      ((∀ stream ∈ streams, ∀ id, ¬ next.Abandoned now stream id) →
        ∀ stream ∈ streams,
          ∀ id ∈ (next.groupOf stream).next
              (next.streamAt stream).ids count,
            ∃ entry,
              (stream, entry) ∈ (next.messages streams count now).1 ∧
                entry.messageId = id) := by
  have sound := GroupSound.run initial run
  have serves : Serves now next (next.messages streams count now).1
      (next.messages streams count now).2 := .messages sound.accounts
  refine ⟨?_, ?_, ?_⟩
  · obtain ⟨slot, idle⟩ : ∃ slot, next.IdleFrom slot :=
      run.invariant ⟨0, initial.idleFrom⟩
        fun idle step => Step.idleFrom step idle
    have performs : next.Performs self intake
        (next.messages streams count now).1
        (next.messages streams count now).2 := .messages
    obtain ⟨commands, final, taken, groups, redis, _, actions⟩ :=
      performs.2 rfl rfl idle
    exact ⟨slot, commands, final, taken, groups, redis, actions⟩
  · intro stream entry member
    obtain ⟨listed, unacknowledged, _⟩ := serves.outstanding _ member
    exact ⟨listed, unacknowledged, serves.due _ member⟩
  · intro recent stream member id isNext
    refine mem_messages (claimFrom_eq_nil ?_) member isNext
    intro other isOther pending isPending
    rw [groupOf_ensureGroups] at isPending
    by_contra old
    exact recent other isOther pending.id
      ⟨pending, isPending, rfl, not_lt.mp old⟩

/--
Once every delivery is thirty seconds old, calls of `messages` that are
followed by acknowledgements empty every stream, with at most one call for each
entry.
-/
theorem backlog_drains
    {times : List Int}
    (initial : before.Initial)
    (run : Run (GroupedWorld.Step self intake) before labels next)
    (positive : 0 < count)
    (old : ∀ now ∈ times, next.AllOld now)
    (covers :
      ∀ stream, next.outstandingAt stream ≠ [] → stream ∈ streams)
    (enough : next.backlog streams ≤ times.length)
    (stream : Uuid) :
    (serveAll streams count times next).outstandingAt stream = [] :=
  serveAll_spec (GroupSound.run initial run).accounts positive old covers
    enough stream

end Runs

end GroupedWorld

/-- The delivery that was left behind is yielded after thirty seconds. -/
theorem messages_serve_leftBehind :
    (leftBehind.messages [1] 8 30000).1 = [(1, leftEntry)] ∧
      leftEntry ∈ (leftBehind.streamAt 1).entries ∧
      (leftBehind.Abandoned 30000 1 1 ∨
        (leftBehind.groupOf 1).lastDelivered < 1) := by
  obtain ⟨_, outstanding, _⟩ :=
    GroupedWorld.messages_serve ⟨smallWorld_initial, rfl⟩ run_leftBehind
      [1] 8 30000
  have yielded : (leftBehind.messages [1] 8 30000).1 = [(1, leftEntry)] := rfl
  obtain ⟨listed, _, due⟩ := outstanding 1 leftEntry (by rw [yielded]; simp)
  exact ⟨yielded, listed, due⟩

/-- One batch after thirty seconds leaves nothing behind. -/
theorem backlog_drains_leftBehind :
    leftBehind.outstandingAt 1 = [1] ∧
      (GroupedWorld.serveAll [1] 8 [30000] leftBehind).outstandingAt 1 =
        [] := by
  have group (stream : Uuid) :
      leftBehind.groupOf stream =
        if stream = 1 then { lastDelivered := 1, pending := [⟨1, 0⟩] }
        else {} := by
    have isGroups :
        leftBehind.groups =
          Function.update (Function.update (fun _ => none) 1 (some {})) 1
            (some { lastDelivered := 1, pending := [⟨1, 0⟩] }) := rfl
    rw [GroupedWorld.groupOf, isGroups, Function.update_idem,
      Function.update_apply]
    split <;> rfl
  refine ⟨rfl, GroupedWorld.backlog_drains ⟨smallWorld_initial, rfl⟩
    run_leftBehind (by decide) ?_ ?_ (by decide) 1⟩
  · intro now isNow stream pending member
    rw [group] at member
    split at member
    · rw [List.mem_singleton.mp isNow, List.mem_singleton.mp member]
      decide
    · cases member
  · intro stream busy
    by_contra other
    rw [List.mem_singleton] at other
    have isStreams :
        leftBehind.world.redis.streams =
          Function.update (fun _ => {}) 1
            { entries := [leftEntry], lastId := 1 } := rfl
    refine busy ?_
    rw [GroupedWorld.outstandingAt, GroupedWorld.streamAt, isStreams,
      Function.update_of_ne other]
    rfl

end FlashTicketing
