import FlashTicketing.PostgresRun

namespace FlashTicketing

open Relational Checked Transition

/-!
# Publishing the outbox

`publish_batch` leases rows, sends them, collects the acknowledgements of the
broker and marks the acknowledged rows as published.  These are separate steps:
between any two of them a publisher can stop, its lease can pass and another
publisher can take over its rows.
-/

variable {Hash : Type}

/-! ## State -/

/-- The columns of an outbox row that only publishers write. -/
structure OutboxColumns where
  occurredAt : Int := 0
  publishedAt : Option Int := none
  leaseUntil : Option Int := none
  leaseToken : Option Uuid := none
  deriving Repr, DecidableEq

/-- The condition of the claiming query. -/
def OutboxColumns.claimable (columns : OutboxColumns) (now : Int) : Bool :=
  decide (columns.publishedAt = none ∧
    ∀ lease ∈ columns.leaseUntil, lease < now)

/-- What was handed to the producer, and whether the broker has it. -/
structure Sent where
  key : Uuid
  value : Envelope
  acknowledged : Bool := false
  deriving Repr, DecidableEq

/-- One call of `publish_batch` after its claim. -/
inductive Publisher where
  /-- In the first loop, with the rows that remain to be sent. -/
  | sending
      (token : Uuid)
      (rows : List OutboxEvent)
      (pending : List (Uuid × Nat))
  /-- In the second loop, with the futures that remain to be awaited. -/
  | collecting
      (token : Uuid)
      (pending : List (Uuid × Nat))
      (confirmed : List Uuid)
      (failed : Bool)

/-- How a call of `publish_batch` ends. -/
inductive PublishResult where
  | returned (published : Bool)
  | raised
  deriving Repr, DecidableEq

structure OutboxWorld (Hash : Type) where
  db : Database Hash
  columns : Uuid → OutboxColumns := fun _ => {}
  now : Int
  publishers : Nat → Option Publisher := fun _ => none
  /-- A future is an index into the sends. -/
  sends : List Sent := []

inductive OutboxAction (Hash : Type) where
  | transact (call : Call Hash) (ambient : Ambient)
  | tick (now : Int)
  | claim (slot : Nat) (token : Uuid) (limit : Nat) (locked : List Uuid)
  | send (slot : Nat)
  | stopSending (slot : Nat)
  | acknowledge (future : Nat)
  | get (slot : Nat)
  | failGet (slot : Nat)
  | confirm (slot : Nat) (result : PublishResult)
  | crash (slot : Nat)

/-- Inserted rows have the defaults of the schema. -/
def insertedColumns
    (insertedAt : Int)
    (before after : Table OutboxEvent)
    (columns : Uuid → OutboxColumns) : Uuid → OutboxColumns :=
  fun id =>
    if before.find? id = none ∧ after.find? id ≠ none then
      { occurredAt := insertedAt }
    else
      columns id

/-- `SET lease_until=...,lease_token=... WHERE id=ANY(...)`. -/
def leaseColumns
    (token : Uuid)
    (now : Int)
    (ids : List Uuid)
    (columns : Uuid → OutboxColumns) : Uuid → OutboxColumns :=
  fun id =>
    if id ∈ ids then
      { columns id with
        leaseUntil := some (addSeconds now 30)
        leaseToken := some token }
    else
      columns id

/-- `SET published_at=... WHERE id=ANY(...) AND lease_token=...`. -/
def publishColumns
    (token : Uuid)
    (now : Int)
    (confirmed : List Uuid)
    (columns : Uuid → OutboxColumns) : Uuid → OutboxColumns :=
  fun id =>
    if id ∈ confirmed ∧ (columns id).leaseToken = some token then
      { columns id with
        publishedAt := some now
        leaseUntil := none }
    else
      columns id

/-- The rows of the claiming query, over those not skipped as locked. -/
structure OutboxWorld.Claims
    (world : OutboxWorld Hash)
    (limit : Nat)
    (locked : List Uuid)
    (rows : List OutboxEvent) : Prop where
  claimable :
    ∀ row ∈ rows,
      row ∈ world.db.outboxEvents ∧
        (world.columns row.id).claimable world.now = true ∧
        row.id ∉ locked
  nodup : rows.Nodup
  ordered :
    rows.Pairwise fun first second =>
      (world.columns first.id).occurredAt ≤
        (world.columns second.id).occurredAt
  bounded : rows.length ≤ limit
  oldest :
    ∀ row ∈ world.db.outboxEvents,
      (world.columns row.id).claimable world.now = true →
      row.id ∉ locked →
      row ∉ rows →
      rows.length = limit ∧
        ∀ other ∈ rows,
          (world.columns other.id).occurredAt ≤
            (world.columns row.id).occurredAt

def OutboxWorld.setColumns
    (world : OutboxWorld Hash)
    (columns : Uuid → OutboxColumns) : OutboxWorld Hash :=
  { world with columns := columns }

def OutboxWorld.setSends
    (world : OutboxWorld Hash)
    (sends : List Sent) : OutboxWorld Hash :=
  { world with sends := sends }

def OutboxWorld.setPublisher
    (world : OutboxWorld Hash)
    (slot : Nat)
    (publisher : Option Publisher) : OutboxWorld Hash :=
  { world with
    publishers := Function.update world.publishers slot publisher }

/-! ## Steps -/

section Steps

variable [DecidableEq Hash]

/-- One step. -/
inductive OutboxWorld.Step
    (self : PostgresReservations Hash)
    (world : OutboxWorld Hash) :
    OutboxAction Hash → OutboxWorld Hash → Prop where
  | transact
      {call : Call Hash}
      {ambient : Ambient}
      {after : Database Hash}
      (isAfter : after = (self.transaction call ambient world.db).2) :
      Step self world (.transact call ambient)
        { world with
          db := after
          columns :=
            insertedColumns ambient.insertedAt world.db.outboxEvents
              after.outboxEvents world.columns }
  | tick
      {now : Int}
      (later : world.now ≤ now) :
      Step self world (.tick now) { world with now := now }
  | claim
      {slot limit : Nat}
      {token : Uuid}
      {locked : List Uuid}
      {rows : List OutboxEvent}
      (idle : world.publishers slot = none)
      (claims : world.Claims limit locked rows)
      (found : rows ≠ []) :
      Step self world (.claim slot token limit locked)
        ((world.setColumns
            (leaseColumns token world.now (rows.map OutboxEvent.id)
              world.columns)).setPublisher slot
          (some (.sending token rows [])))
  | send
      {slot : Nat}
      {token : Uuid}
      {row : OutboxEvent}
      {rest : List OutboxEvent}
      {pending : List (Uuid × Nat)}
      (working :
        world.publishers slot = some (.sending token (row :: rest) pending)) :
      Step self world (.send slot)
        ((world.setSends
            (world.sends ++
              [{ key := row.aggregateId
                 value := row.envelope }])).setPublisher slot
          (some
            (.sending token rest
              (pending ++ [(row.id, world.sends.length)]))))
  -- The rows are sent, the deadline has passed, or `send` has raised.
  | stopSending
      {slot : Nat}
      {token : Uuid}
      {rows : List OutboxEvent}
      {pending : List (Uuid × Nat)}
      {failed : Bool}
      (working :
        world.publishers slot = some (.sending token rows pending))
      (raised : failed = true → rows ≠ []) :
      Step self world (.stopSending slot)
        (world.setPublisher slot
          (some (.collecting token pending [] failed)))
  | acknowledge
      {future : Nat} :
      Step self world (.acknowledge future)
        (world.setSends
          (world.sends.modify future fun sent =>
            { sent with acknowledged := true }))
  | get
      {slot future : Nat}
      {token id : Uuid}
      {rest : List (Uuid × Nat)}
      {confirmed : List Uuid}
      {failed : Bool}
      {sent : Sent}
      (working :
        world.publishers slot =
          some (.collecting token ((id, future) :: rest) confirmed failed))
      (found : world.sends[future]? = some sent)
      (acknowledged : sent.acknowledged = true) :
      Step self world (.get slot)
        (world.setPublisher slot
          (some (.collecting token rest (confirmed ++ [id]) failed)))
  -- A future can time out or fail whether or not the broker has the record.
  | failGet
      {slot : Nat}
      {token : Uuid}
      {awaited : Uuid × Nat}
      {rest : List (Uuid × Nat)}
      {confirmed : List Uuid}
      {failed : Bool}
      (working :
        world.publishers slot =
          some (.collecting token (awaited :: rest) confirmed failed)) :
      Step self world (.failGet slot)
        (world.setPublisher slot
          (some (.collecting token rest confirmed true)))
  | confirm
      {slot : Nat}
      {token : Uuid}
      {confirmed : List Uuid}
      {failed : Bool}
      {result : PublishResult}
      (working :
        world.publishers slot = some (.collecting token [] confirmed failed))
      (answered :
        result =
          if failed then .raised else .returned (!confirmed.isEmpty)) :
      Step self world (.confirm slot result)
        ((world.setColumns
            (publishColumns token world.now confirmed
              world.columns)).setPublisher slot none)
  | crash
      {slot : Nat} :
      Step self world (.crash slot) (world.setPublisher slot none)

end Steps

/-- An initial store whose outbox nobody has published yet. -/
structure OutboxWorld.Initial (world : OutboxWorld Hash) : Prop where
  db : world.db.Initial
  unpublished : world.columns = fun _ => {}
  idle : world.publishers = fun _ => none
  unsent : world.sends = []

/-! ## What the broker has -/

/-- Sends stay, and acknowledged ones stay acknowledged. -/
def SendsKept (sends after : List Sent) : Prop :=
  ∀ (future : Nat) (sent : Sent),
    sends[future]? = some sent →
    ∃ next : Sent,
      after[future]? = some next ∧
        next.key = sent.key ∧
        next.value = sent.value ∧
        (sent.acknowledged = true → next.acknowledged = true)

namespace SendsKept

theorem refl (sends : List Sent) : SendsKept sends sends :=
  fun _ sent found => ⟨sent, found, rfl, rfl, id⟩

theorem append
    (sends added : List Sent) :
    SendsKept sends (sends ++ added) := by
  intro future sent found
  obtain ⟨inside, _⟩ := List.getElem?_eq_some_iff.mp found
  refine ⟨sent, ?_, rfl, rfl, id⟩
  rw [List.getElem?_append_left inside]
  exact found

theorem acknowledge (sends : List Sent) (future : Nat) :
    SendsKept sends
      (sends.modify future fun sent => { sent with acknowledged := true }) := by
  intro other sent found
  rw [List.getElem?_modify, found]
  by_cases same : future = other
  · exact ⟨{ sent with acknowledged := true }, by simp [same], rfl, rfl,
      fun _ => rfl⟩
  · exact ⟨sent, by simp [same], rfl, rfl, id⟩

end SendsKept

/-- The send is one of the row. -/
def Sent.IsOf (sent : Sent) (row : OutboxEvent) : Prop :=
  sent.key = row.aggregateId ∧ sent.value = row.envelope

/-- The broker has acknowledged a send of the row. -/
def Acknowledged (sends : List Sent) (row : OutboxEvent) : Prop :=
  ∃ sent ∈ sends, sent.acknowledged = true ∧ sent.IsOf row

theorem Acknowledged.kept
    {sends after : List Sent}
    {row : OutboxEvent}
    (kept : SendsKept sends after)
    (acknowledged : Acknowledged sends row) :
    Acknowledged after row := by
  obtain ⟨sent, member, isAcknowledged, isKey, isValue⟩ := acknowledged
  obtain ⟨future, found⟩ := List.mem_iff_getElem?.mp member
  obtain ⟨next, nextFound, sameKey, sameValue, stays⟩ :=
    kept future sent found
  exact ⟨next, List.mem_of_getElem? nextFound, stays isAcknowledged,
    sameKey.trans isKey, sameValue.trans isValue⟩

/-- The future belongs to a send of the row with the identifier. -/
def Awaits
    (db : Database Hash)
    (sends : List Sent)
    (awaited : Uuid × Nat) : Prop :=
  ∃ row ∈ db.outboxEvents,
    row.id = awaited.1 ∧
      ∃ sent, sends[awaited.2]? = some sent ∧ sent.IsOf row

/-- The broker has acknowledged the row with the identifier. -/
def Confirms
    (db : Database Hash)
    (sends : List Sent)
    (id : Uuid) : Prop :=
  ∃ row ∈ db.outboxEvents, row.id = id ∧ Acknowledged sends row

/-- What a publisher holds. -/
def Publisher.Sound
    (db : Database Hash)
    (sends : List Sent) : Publisher → Prop
  | .sending _ rows pending =>
      (∀ row ∈ rows, row ∈ db.outboxEvents) ∧
        ∀ awaited ∈ pending, Awaits db sends awaited
  | .collecting _ pending confirmed _ =>
      (∀ awaited ∈ pending, Awaits db sends awaited) ∧
        ∀ id ∈ confirmed, Confirms db sends id

section Kept

variable
  {db after : Database Hash}
  {sends next : List Sent}

theorem Awaits.kept
    {awaited : Uuid × Nat}
    (outbox : OutboxKept db after)
    (kept : SendsKept sends next)
    (awaits : Awaits db sends awaited) :
    Awaits after next awaited := by
  obtain ⟨row, member, isRow, sent, found, isKey, isValue⟩ := awaits
  obtain ⟨later, laterFound, sameKey, sameValue, _⟩ := kept _ sent found
  exact ⟨row, outbox row member, isRow, later, laterFound,
    sameKey.trans isKey, sameValue.trans isValue⟩

theorem Confirms.kept
    {id : Uuid}
    (outbox : OutboxKept db after)
    (kept : SendsKept sends next)
    (confirms : Confirms db sends id) :
    Confirms after next id := by
  obtain ⟨row, member, isRow, acknowledged⟩ := confirms
  exact ⟨row, outbox row member, isRow, acknowledged.kept kept⟩

theorem Publisher.Sound.kept
    {publisher : Publisher}
    (outbox : OutboxKept db after)
    (kept : SendsKept sends next)
    (sound : publisher.Sound db sends) :
    publisher.Sound after next := by
  cases publisher with
  | sending =>
      obtain ⟨rows, pending⟩ := sound
      exact ⟨fun row listed => outbox row (rows row listed),
        fun awaited listed => (pending awaited listed).kept outbox kept⟩
  | collecting =>
      obtain ⟨pending, confirmed⟩ := sound
      exact ⟨fun awaited listed => (pending awaited listed).kept outbox kept,
        fun id listed => (confirmed id listed).kept outbox kept⟩

end Kept

/-! ## The invariant -/

theorem OutboxWorld.Step.outboxKept
    [DecidableEq Hash]
    {self : PostgresReservations Hash}
    {world after : OutboxWorld Hash}
    {action : OutboxAction Hash}
    (step : world.Step self action after) :
    OutboxKept world.db after.db := by
  cases step with
  | @transact call ambient next isAfter =>
      rw [isAfter]
      exact (PostgresReservations.changes_of_transaction self call ambient
        world.db).outboxKept
  | tick | claim | send | stopSending | acknowledge | get | failGet
  | confirm | crash => exact fun _ => id

/-- The invariant of the outbox and its publishers. -/
structure OutboxSound (world : OutboxWorld Hash) : Prop where
  publishers :
    ∀ {slot publisher},
      world.publishers slot = some publisher →
      publisher.Sound world.db world.sends
  published :
    ∀ row ∈ world.db.outboxEvents,
      (world.columns row.id).publishedAt ≠ none →
      Acknowledged world.sends row
  unused :
    ∀ {id},
      world.db.outboxEvents.find? id = none →
      (world.columns id).publishedAt = none
  leased :
    ∀ {id lease},
      (world.columns id).leaseUntil = some lease →
      lease ≤ addSeconds world.now 30

theorem OutboxWorld.Initial.sound
    {world : OutboxWorld Hash}
    (initial : world.Initial) :
    OutboxSound world := by
  constructor
  · intro slot publisher working
    rw [initial.idle] at working
    cases working
  · intro row _ published
    rw [initial.unpublished] at published
    exact absurd rfl published
  · intro id _
    rw [initial.unpublished]
  · intro id lease leased
    rw [initial.unpublished] at leased
    cases leased

namespace OutboxSound

variable {world : OutboxWorld Hash}

/-- Only the publisher in one slot moves. -/
theorem setPublisher
    {slot : Nat}
    {publisher : Option Publisher}
    (sound : OutboxSound world)
    (next :
      ∀ moved, publisher = some moved → moved.Sound world.db world.sends) :
    OutboxSound (world.setPublisher slot publisher) := by
  refine ⟨?_, sound.published, sound.unused, sound.leased⟩
  intro other working found
  unfold OutboxWorld.setPublisher at found
  by_cases same : other = slot
  · subst same
    simp only [Function.update_self] at found
    exact next working found
  · simp only [Function.update_of_ne same] at found
    exact sound.publishers found

/-- The broker learns something. -/
theorem setSends
    {sends : List Sent}
    (sound : OutboxSound world)
    (kept : SendsKept world.sends sends) :
    OutboxSound (world.setSends sends) := by
  refine ⟨?_, ?_, sound.unused, sound.leased⟩
  · intro slot publisher working
    exact (sound.publishers working).kept (fun _ => id) kept
  · intro row member published
    exact (sound.published row member published).kept kept

theorem lease
    (token : Uuid)
    (ids : List Uuid)
    (sound : OutboxSound world) :
    OutboxSound
      (world.setColumns (leaseColumns token world.now ids world.columns)) := by
  have unpublished (id : Uuid) :
      (leaseColumns token world.now ids world.columns id).publishedAt =
        (world.columns id).publishedAt := by
    unfold leaseColumns
    split <;> rfl
  refine ⟨sound.publishers, ?_, ?_, ?_⟩
  · intro row member published
    exact sound.published row member (unpublished row.id ▸ published)
  · intro id absent
    exact (unpublished id).trans (sound.unused absent)
  · intro id lease leased
    change (leaseColumns token world.now ids world.columns id).leaseUntil =
      some lease at leased
    unfold leaseColumns at leased
    split at leased
    · cases leased
      exact Int.le_refl _
    · exact sound.leased leased

theorem publish
    {token : Uuid}
    {confirmed : List Uuid}
    (sound : OutboxSound world)
    (acknowledged :
      ∀ id ∈ confirmed, Confirms world.db world.sends id) :
    OutboxSound
      (world.setColumns
        (publishColumns token world.now confirmed world.columns)) := by
  refine ⟨sound.publishers, ?_, ?_, ?_⟩
  · intro row member published
    change (publishColumns token world.now confirmed world.columns
      row.id).publishedAt ≠ none at published
    unfold publishColumns at published
    split at published
    · rename_i recorded
      obtain ⟨other, otherMember, isRow, isAcknowledged⟩ :=
        acknowledged row.id recorded.1
      have same : other = row :=
        Table.eq_of_key_eq otherMember member isRow
      exact same ▸ isAcknowledged
    · exact sound.published row member published
  · intro id absent
    change (publishColumns token world.now confirmed world.columns
      id).publishedAt = none
    unfold publishColumns
    split
    · rename_i recorded
      obtain ⟨row, member, rfl, _⟩ := acknowledged id recorded.1
      cases absent.symm.trans (Table.find?_key member)
    · exact sound.unused absent
  · intro id lease leased
    change (publishColumns token world.now confirmed world.columns
      id).leaseUntil = some lease at leased
    unfold publishColumns at leased
    split at leased
    · cases leased
    · exact sound.leased leased

theorem insert
    {insertedAt : Int}
    {after : Database Hash}
    (sound : OutboxSound world)
    (outbox : OutboxKept world.db after) :
    OutboxSound
      { world with
        db := after
        columns :=
          insertedColumns insertedAt world.db.outboxEvents
            after.outboxEvents world.columns } := by
  refine ⟨?_, ?_, ?_, ?_⟩
  · intro slot publisher working
    exact (sound.publishers working).kept outbox (.refl _)
  · intro row member published
    change (insertedColumns insertedAt world.db.outboxEvents
      after.outboxEvents world.columns row.id).publishedAt ≠ none at published
    unfold insertedColumns at published
    split at published
    · exact absurd rfl published
    · cases before : world.db.outboxEvents.find? row.id with
      | none => exact absurd (sound.unused before) published
      | some old =>
          have isOld : old.id = row.id := Table.key_of_find? before
          have oldMember := Table.mem_of_find? before
          have same : old = row :=
            Table.eq_of_key_eq (outbox old oldMember) member isOld
          exact sound.published row (same ▸ oldMember) published
  · intro id absent
    change (insertedColumns insertedAt world.db.outboxEvents
      after.outboxEvents world.columns id).publishedAt = none
    unfold insertedColumns
    split
    · rfl
    · apply sound.unused
      rw [Table.find?_eq_none_iff] at absent ⊢
      intro row member
      exact absent row (outbox row member)
  · intro id lease leased
    change (insertedColumns insertedAt world.db.outboxEvents
      after.outboxEvents world.columns id).leaseUntil = some lease at leased
    unfold insertedColumns at leased
    split at leased
    · cases leased
    · exact sound.leased leased

variable [DecidableEq Hash]

theorem step
    {self : PostgresReservations Hash}
    {after : OutboxWorld Hash}
    {action : OutboxAction Hash}
    (sound : OutboxSound world)
    (step : world.Step self action after) :
    OutboxSound after := by
  cases step with
  | transact isAfter =>
      exact sound.insert (OutboxWorld.Step.transact isAfter).outboxKept
  | @tick now later =>
      refine ⟨sound.publishers, sound.published, sound.unused, ?_⟩
      intro id lease leased
      exact Int.le_trans (sound.leased leased) (Int.add_le_add_right later _)
  | @claim _ _ token _ rows _ claims _ =>
      apply (sound.lease token (rows.map OutboxEvent.id)).setPublisher
      rintro _ ⟨⟩
      exact ⟨fun row listed => (claims.claimable row listed).1, nofun⟩
  | @send _ token row rest pending working =>
      obtain ⟨rows, awaited⟩ := sound.publishers working
      have kept := SendsKept.append world.sends
        [{ key := row.aggregateId, value := row.envelope }]
      apply (sound.setSends kept).setPublisher
      rintro _ ⟨⟩
      refine ⟨fun other listed => rows other (List.mem_cons_of_mem _ listed), ?_⟩
      intro other listed
      rcases List.mem_append.mp listed with before | last
      · exact (awaited other before).kept (fun _ => id) kept
      · cases List.mem_singleton.mp last
        exact ⟨row, rows row List.mem_cons_self, rfl, _,
          List.getElem?_concat_length, rfl, rfl⟩
  | stopSending working =>
      obtain ⟨_, awaited⟩ := sound.publishers working
      apply sound.setPublisher
      rintro _ ⟨⟩
      exact ⟨awaited, nofun⟩
  | acknowledge => exact sound.setSends (.acknowledge _ _)
  | @get _ future token id rest confirmed _ sent working found acknowledged =>
      obtain ⟨awaited, confirms⟩ := sound.publishers working
      apply sound.setPublisher
      rintro _ ⟨⟩
      refine ⟨fun other listed => awaited other (List.mem_cons_of_mem _ listed),
        ?_⟩
      intro other listed
      rcases List.mem_append.mp listed with before | last
      · exact confirms other before
      · cases List.mem_singleton.mp last
        obtain ⟨row, member, isRow, other, otherFound, isOf⟩ :=
          awaited (id, future) List.mem_cons_self
        cases otherFound.symm.trans found
        exact ⟨row, member, isRow, sent, List.mem_of_getElem? found,
          acknowledged, isOf⟩
  | failGet working =>
      obtain ⟨awaited, confirms⟩ := sound.publishers working
      apply sound.setPublisher
      rintro _ ⟨⟩
      exact ⟨fun other listed => awaited other (List.mem_cons_of_mem _ listed),
        confirms⟩
  | confirm working =>
      obtain ⟨_, confirms⟩ := sound.publishers working
      exact (sound.publish confirms).setPublisher nofun
  | crash => exact sound.setPublisher nofun

end OutboxSound

/-! ## Records of acknowledgements -/

/--
The action is the confirmation of a publisher that has the acknowledgement of
the row and still holds its lease.
-/
def OutboxWorld.Records
    (world : OutboxWorld Hash)
    (action : OutboxAction Hash)
    (id : Uuid) : Prop :=
  ∃ slot result token confirmed failed,
    action = .confirm slot result ∧
      world.publishers slot =
        some (.collecting token [] confirmed failed) ∧
      id ∈ confirmed ∧
      (world.columns id).leaseToken = some token

section Records

variable [DecidableEq Hash]

/-- Nothing but such a confirmation touches `published_at`. -/
theorem OutboxSound.publishedAt_of_step
    {self : PostgresReservations Hash}
    {world after : OutboxWorld Hash}
    {action : OutboxAction Hash}
    {id : Uuid}
    (sound : OutboxSound world)
    (step : world.Step self action after)
    (unrecorded : ¬ world.Records action id) :
    (after.columns id).publishedAt = (world.columns id).publishedAt := by
  cases step with
  | @transact _ ambient next _ =>
      change (insertedColumns ambient.insertedAt world.db.outboxEvents
        next.outboxEvents world.columns id).publishedAt = _
      unfold insertedColumns
      split
      · rename_i inserted
        exact (sound.unused inserted.1).symm
      · rfl
  | @claim _ _ token _ rows =>
      change (leaseColumns token world.now (rows.map OutboxEvent.id)
        world.columns id).publishedAt = _
      unfold leaseColumns
      split <;> rfl
  | @confirm slot token confirmed failed result working =>
      change (publishColumns token world.now confirmed world.columns
        id).publishedAt = _
      unfold publishColumns
      rw [if_neg]
      rintro ⟨listed, isToken⟩
      exact unrecorded
        ⟨slot, result, token, confirmed, failed, rfl, working, listed, isToken⟩
  | tick | send | stopSending | acknowledge | get | failGet | crash => rfl

/-- A step that records no acknowledgement of the row. -/
def OutboxWorld.UnrecordedStep
    (self : PostgresReservations Hash)
    (id : Uuid)
    (world : OutboxWorld Hash)
    (action : OutboxAction Hash)
    (after : OutboxWorld Hash) : Prop :=
  world.Step self action after ∧ ¬ world.Records action id

/-- The row is still to be published. -/
structure Unpublished
    (row : OutboxEvent)
    (world : OutboxWorld Hash) : Prop where
  sound : OutboxSound world
  stored : row ∈ world.db.outboxEvents
  still : (world.columns row.id).publishedAt = none

theorem Unpublished.step
    {self : PostgresReservations Hash}
    {row : OutboxEvent}
    {world after : OutboxWorld Hash}
    {action : OutboxAction Hash}
    (unpublished : Unpublished row world)
    (step : OutboxWorld.UnrecordedStep self row.id world action after) :
    Unpublished row after := by
  obtain ⟨taken, unrecorded⟩ := step
  refine ⟨unpublished.sound.step taken,
    taken.outboxKept row unpublished.stored, ?_⟩
  rw [unpublished.sound.publishedAt_of_step taken unrecorded]
  exact unpublished.still

/-! ## Claiming again -/

omit [DecidableEq Hash] in
/-- A large enough batch has every claimable row. -/
theorem OutboxWorld.exists_claims
    (world : OutboxWorld Hash)
    {limit : Nat}
    (enough : world.db.outboxEvents.rows.length ≤ limit) :
    ∃ rows,
      world.Claims limit [] rows ∧
        ∀ row ∈ world.db.outboxEvents,
          (world.columns row.id).claimable world.now = true →
          row ∈ rows := by
  let due : List OutboxEvent :=
    world.db.outboxEvents.select fun row =>
      (world.columns row.id).claimable world.now
  let older (first second : OutboxEvent) : Bool :=
    decide ((world.columns first.id).occurredAt ≤
      (world.columns second.id).occurredAt)
  have permuted : (due.mergeSort older).Perm due := List.mergeSort_perm _ _
  have every :
      ∀ row ∈ world.db.outboxEvents,
        (world.columns row.id).claimable world.now = true →
        row ∈ due.mergeSort older := by
    intro row member isDue
    exact permuted.mem_iff.mpr (Table.mem_select.mpr ⟨member, isDue⟩)
  refine ⟨due.mergeSort older, ⟨?_, ?_, ?_, ?_, ?_⟩, every⟩
  · intro row listed
    obtain ⟨member, isDue⟩ := Table.mem_select.mp (permuted.mem_iff.mp listed)
    exact ⟨member, isDue, List.not_mem_nil⟩
  · apply permuted.nodup_iff.mpr
    exact (Table.select_keysNodup _ _).of_map _
  · have sorted : (due.mergeSort older).Pairwise fun a b => older a b := by
      apply List.pairwise_mergeSort
      · intro first second third early late
        exact decide_eq_true
          (Int.le_trans (of_decide_eq_true early) (of_decide_eq_true late))
      · intro first second
        simp only [older, Bool.or_eq_true, decide_eq_true_eq]
        exact Int.le_total _ _
    exact sorted.imp fun isOlder => of_decide_eq_true isOlder
  · rw [permuted.length_eq]
    exact Nat.le_trans (List.length_filter_le _ _) enough
  · intro row member isDue _ unlisted
    exact absurd (every row member isDue) unlisted

/--
In every reachable state a published row was sent under its own identifier and
acknowledged by the broker.  `published_at` changes only when a publisher that
holds the lease confirms an acknowledgement.  As long as none is recorded, the
row stays unpublished; its lease ends within thirty seconds, and from then on
claims take it unless older rows fill their batch.
-/
theorem outbox_publication
    {self : PostgresReservations Hash}
    {start world : OutboxWorld Hash}
    {trace : List (OutboxAction Hash)}
    (initial : start.Initial)
    (run : Run (OutboxWorld.Step self) start trace world) :
    (∀ row ∈ world.db.outboxEvents,
      (world.columns row.id).publishedAt ≠ none →
      ∃ sent ∈ world.sends,
        sent.acknowledged = true ∧
          sent.key = row.aggregateId ∧
          sent.value = row.envelope) ∧
    (∀ action after id,
      world.Step self action after →
      (after.columns id).publishedAt ≠ (world.columns id).publishedAt →
      world.Records action id) ∧
    ∀ row ∈ world.db.outboxEvents,
      (world.columns row.id).publishedAt = none →
      ∀ later final,
        Run (OutboxWorld.UnrecordedStep self row.id) world later final →
        (final.columns row.id).publishedAt = none ∧
        (∀ lease ∈ (final.columns row.id).leaseUntil,
          lease ≤ addSeconds final.now 30) ∧
        ∀ now,
          final.now ≤ now →
          (∀ lease ∈ (final.columns row.id).leaseUntil, lease < now) →
          (∀ limit locked rows,
            { final with now := now }.Claims limit locked rows →
            row.id ∉ locked →
            row ∉ rows →
            rows.length = limit ∧
              ∀ other ∈ rows,
                (final.columns other.id).occurredAt ≤
                  (final.columns row.id).occurredAt) ∧
          ∀ slot token limit,
            final.publishers slot = none →
            final.db.outboxEvents.rows.length ≤ limit →
            ∃ after,
              Run (OutboxWorld.Step self) final
                [.tick now, .claim slot token limit []] after ∧
                (after.columns row.id).leaseToken = some token := by
  have sound : OutboxSound world :=
    run.invariant initial.sound fun holds step => holds.step step
  refine ⟨sound.published, ?_, ?_⟩
  · intro action after id step changed
    by_contra unrecorded
    exact changed (sound.publishedAt_of_step step unrecorded)
  · intro row member unpublished later final continuation
    have unpublishedStart : Unpublished row world :=
      ⟨sound, member, unpublished⟩
    obtain ⟨finalSound, stored, still⟩ : Unpublished row final :=
      continuation.invariant unpublishedStart fun holds step =>
        holds.step step
    refine ⟨still, fun lease leased => finalSound.leased leased, ?_⟩
    intro now ticked passed
    have isDue : (final.columns row.id).claimable now = true :=
      decide_eq_true ⟨still, passed⟩
    constructor
    · intro limit locked rows claims unlocked unlisted
      exact claims.oldest row stored isDue unlocked unlisted
    · intro slot token limit idle enough
      obtain ⟨rows, claims, every⟩ :=
        { final with now := now }.exists_claims enough
      have listed : row ∈ rows := every row stored isDue
      refine ⟨_, .cons (.tick ticked)
        (.single (.claim idle claims (List.ne_nil_of_mem listed))), ?_⟩
      have isLeased : row.id ∈ rows.map OutboxEvent.id :=
        List.mem_map_of_mem listed
      change (leaseColumns token now (rows.map OutboxEvent.id) final.columns
        row.id).leaseToken = some token
      rw [leaseColumns, if_pos isLeased]

end Records

/-! ## One announcement, published -/

/-- The announcement of a seat that was reserved. -/
def smallAnnouncement : OutboxEvent where
  id := 102
  aggregateId := 101
  message := .seatsChanged 1 (some ["A1"])

def outboxStart : OutboxWorld Request where
  db := smallSale
  now := 0

def outboxAnnounced : OutboxWorld Request where
  db := smallStore.replay smallSale (smallPurchase.take 1)
  columns :=
    insertedColumns (1 * second) smallSale.outboxEvents
      (smallStore.replay smallSale (smallPurchase.take 1)).outboxEvents
      fun _ => {}
  now := 0

def outboxLeased : OutboxWorld Request :=
  (outboxAnnounced.setColumns
    (leaseColumns 900 0 [102] outboxAnnounced.columns)).setPublisher 0
    (some (.sending 900 [smallAnnouncement] []))

def outboxSent : OutboxWorld Request :=
  (outboxLeased.setSends
    (outboxLeased.sends ++
      [{ key := smallAnnouncement.aggregateId
         value := smallAnnouncement.envelope }])).setPublisher 0
    (some
      (.sending 900 []
        ([] ++ [(smallAnnouncement.id, outboxLeased.sends.length)])))

def outboxAwaiting : OutboxWorld Request :=
  outboxSent.setPublisher 0 (some (.collecting 900 [(102, 0)] [] false))

def outboxAcknowledged : OutboxWorld Request :=
  outboxAwaiting.setSends
    [{ key := 101
       value := smallAnnouncement.envelope
       acknowledged := true }]

def outboxCollected : OutboxWorld Request :=
  outboxAcknowledged.setPublisher 0 (some (.collecting 900 [] ([] ++ [102]) false))

def outboxPublished : OutboxWorld Request :=
  (outboxCollected.setColumns
    (publishColumns 900 0 [102] outboxCollected.columns)).setPublisher 0 none

theorem claims_outboxAnnounced :
    outboxAnnounced.Claims 32 [] [smallAnnouncement] := by
  refine ⟨by decide, by decide, List.pairwise_singleton _ _, by decide, ?_⟩
  intro row member _ _ unlisted
  exact absurd (by exact member) unlisted

theorem run_outboxLeased :
    Run (OutboxWorld.Step smallStore) outboxStart
      [.transact (.reserve "alice" 1 ["A1"] "first") (smallAmbient 1 100),
        .claim 0 900 32 []] outboxLeased :=
  .cons (.transact rfl)
    (.single (.claim rfl claims_outboxAnnounced (List.cons_ne_nil _ _)))

theorem run_outboxPublished :
    Run (OutboxWorld.Step smallStore) outboxLeased
      [.send 0, .stopSending 0, .acknowledge 0, .get 0,
        .confirm 0 (.returned true)] outboxPublished := by
  have sends : OutboxWorld.Step smallStore outboxLeased (.send 0) outboxSent :=
    .send rfl
  have stops :
      OutboxWorld.Step smallStore outboxSent (.stopSending 0)
        outboxAwaiting :=
    .stopSending rfl nofun
  have acknowledges :
      OutboxWorld.Step smallStore outboxAwaiting (.acknowledge 0)
        outboxAcknowledged :=
    .acknowledge
  have gets :
      OutboxWorld.Step smallStore outboxAcknowledged (.get 0)
        outboxCollected :=
    .get rfl rfl rfl
  have confirms :
      OutboxWorld.Step smallStore outboxCollected
        (.confirm 0 (.returned true)) outboxPublished :=
    .confirm rfl rfl
  exact .cons sends (.cons stops (.cons acknowledges (.cons gets
    (.single confirms))))

/--
The announcement is published, and was acknowledged before.  Had its publisher
stopped after the claim, another one could have taken it over.
-/
theorem outbox_publication_smallSale :
    ((outboxPublished.columns 102).publishedAt = some 0 ∧
      ∃ sent ∈ outboxPublished.sends,
        sent.acknowledged = true ∧
          sent.key = 101 ∧
          sent.value = smallAnnouncement.envelope) ∧
    ∃ after,
      Run (OutboxWorld.Step smallStore) (outboxLeased.setPublisher 0 none)
        [.tick (31 * second), .claim 1 901 32 []] after ∧
        (after.columns 102).leaseToken = some 901 := by
  have initial : outboxStart.Initial := ⟨smallSale_initial, rfl, rfl, rfl⟩
  constructor
  · obtain ⟨published, _, _⟩ :=
      outbox_publication initial (run_outboxLeased.append run_outboxPublished)
    exact ⟨by decide, published smallAnnouncement (by decide) (by decide)⟩
  · obtain ⟨_, _, reclaimed⟩ := outbox_publication initial run_outboxLeased
    have crashed :
        OutboxWorld.UnrecordedStep smallStore 102 outboxLeased (.crash 0)
          (outboxLeased.setPublisher 0 none) := by
      refine ⟨.crash, ?_⟩
      rintro ⟨_, _, _, _, _, isConfirm, _⟩
      cases isConfirm
    obtain ⟨_, _, claimable⟩ :=
      reclaimed smallAnnouncement (by decide) (by decide) _ _ (.single crashed)
    exact (claimable (31 * second) (by decide) (by decide)).2 1 901 32 rfl
      (by decide)

end FlashTicketing
