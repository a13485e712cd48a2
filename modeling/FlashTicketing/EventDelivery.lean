import FlashTicketing.Fulfilment
import FlashTicketing.OutboxPublisher

namespace FlashTicketing

open Relational Checked Transition

/-!
# From the outbox to the inbox

Publishers hand outbox rows to a broker, and the consumers of one group take
them from there.  A consumer tries a record five times, writes it to
`dead_letters` when every attempt has failed, and only then commits its
positions.  An operator replays a dead letter and deletes it afterwards.  No
step of this chain is atomic with the next one, any process can stop between
two of them, and partitions move between consumers.  The broker keeps what it
has acknowledged: a topic only grows.
-/

variable {Hash Bytes Text : Type}

/-! ## Records -/

/-- How envelopes are written and read. -/
structure Codec (Bytes Text : Type) where
  /-- `json.dumps(value).encode()` of the producer. -/
  encode : Envelope → Bytes
  /-- `json.loads(message.value)`, where that is an envelope. -/
  decode : Bytes → Option Envelope
  /-- `message.value.decode(errors="replace")`. -/
  text : Bytes → Text
  /-- `json.loads(row["payload"]["raw"])`, where that is an envelope. -/
  parse : Text → Option Envelope

/-- What was encoded is read back, also from the text of a dead letter. -/
structure Codec.Faithful (codec : Codec Bytes Text) : Prop where
  decode_encode : ∀ envelope, codec.decode (codec.encode envelope) = some envelope
  parse_text :
    ∀ envelope, codec.parse (codec.text (codec.encode envelope)) = some envelope

/-- One row of `dead_letters`. -/
structure DeadLetter (Text : Type) where
  eventId : Uuid
  raw : Text
  error : String := "Processing failed after 5 attempts; inspect worker logs"
  deriving Repr, DecidableEq

instance : Keyed (DeadLetter Text) Uuid := ⟨DeadLetter.eventId⟩

/-! ## Processes -/

/-- Where a consumer is with the record it has. -/
inductive Handling where
  /-- In the loop, at the given attempt. -/
  | trying (attempt : Nat)
  /-- The last attempt has failed. -/
  | burying
  /-- The loop is over, the positions are to be committed. -/
  | handled
  deriving Repr, DecidableEq

/-- The record that a consumer has. -/
structure Polled (Bytes : Type) where
  partition : Nat
  offset : Nat
  value : Bytes
  handling : Handling := .trying 0

/-- A process with the role `consumer`. -/
structure Consumer (Bytes : Type) where
  /-- The next offset of every assigned partition. -/
  positions : Nat → Option Nat := fun _ => none
  current : Option (Polled Bytes) := none

/-- A run of `cli replay --id`. -/
inductive Replay (Text : Type) where
  | read (letter : DeadLetter Text)
  | consumed (letter : DeadLetter Text)

/-- The letter that is being replayed. -/
def Replay.letter : Replay Text → DeadLetter Text
  | .read letter => letter
  | .consumed letter => letter

structure DeliveryWorld (Hash Bytes Text : Type) where
  outbox : OutboxWorld Hash
  /-- The records of every partition, in the order of their offsets. -/
  topic : Nat → List Bytes := fun _ => []
  /-- The committed offsets of the group; zero is the earliest offset. -/
  committed : Nat → Nat := fun _ => 0
  deadLetters : Table (DeadLetter Text) := .empty
  consumers : Nat → Option (Consumer Bytes) := fun _ => none
  replays : Nat → Option (Replay Text) := fun _ => none

namespace DeliveryWorld

/-- The database that all processes share. -/
def db (world : DeliveryWorld Hash Bytes Text) : Database Hash :=
  world.outbox.db

def setOutbox
    (world : DeliveryWorld Hash Bytes Text)
    (outbox : OutboxWorld Hash) : DeliveryWorld Hash Bytes Text :=
  { world with outbox := outbox }

def setConsumer
    (world : DeliveryWorld Hash Bytes Text)
    (slot : Nat)
    (consumer : Option (Consumer Bytes)) : DeliveryWorld Hash Bytes Text :=
  { world with
    consumers := Function.update world.consumers slot consumer }

def setReplay
    (world : DeliveryWorld Hash Bytes Text)
    (slot : Nat)
    (replay : Option (Replay Text)) : DeliveryWorld Hash Bytes Text :=
  { world with replays := Function.update world.replays slot replay }

def setLetters
    (world : DeliveryWorld Hash Bytes Text)
    (letters : Table (DeadLetter Text)) : DeliveryWorld Hash Bytes Text :=
  { world with deadLetters := letters }

/-- The identifier is not one of a letter that is being replayed. -/
def Unused
    (world : DeliveryWorld Hash Bytes Text)
    (id : Uuid) : Prop :=
  ∀ slot replay,
    world.replays slot = some replay → replay.letter.eventId ≠ id

end DeliveryWorld

/-- `consumer.commit()` writes the positions of all assigned partitions. -/
def Consumer.commit
    (consumer : Consumer Bytes)
    (committed : Nat → Nat) : Nat → Nat :=
  fun partition => (consumer.positions partition).getD (committed partition)

/-- What follows an attempt that raised. -/
def Handling.afterFailure (attempt : Nat) : Handling :=
  if attempt = 4 then .burying else .trying (attempt + 1)

/-! ## Steps -/

inductive DeliveryAction (Hash Bytes : Type) where
  | outbox (action : OutboxAction Hash)
  | append (partition : Nat) (value : Bytes)
  | acknowledge (future : Nat)
  | join (slot : Nat)
  | assign (slot : Nat)
  | poll (slot : Nat) (partition : Nat)
  | consume (slot : Nat) (ambient : Ambient)
  | failAttempt (slot : Nat)
  | bury (slot : Nat) (id : Uuid)
  | failBury (slot : Nat) (id : Uuid)
  | commit (slot : Nat)
  | failCommit (slot : Nat)
  | crash (slot : Nat)
  | readLetter (slot : Nat) (id : Uuid)
  | replay (slot : Nat) (ambient : Ambient)
  | deleteLetter (slot : Nat)
  | stopReplay (slot : Nat)

section Steps

variable [DecidableEq Hash]

/-- One step. -/
inductive DeliveryWorld.Step
    (self : PostgresReservations Hash)
    (codec : Codec Bytes Text)
    (world : DeliveryWorld Hash Bytes Text) :
    DeliveryAction Hash Bytes → DeliveryWorld Hash Bytes Text → Prop where
  -- Publishers and all other transactions.
  | outbox
      {action : OutboxAction Hash}
      {after : OutboxWorld Hash}
      (step : world.outbox.Step self action after)
      (elsewhere : ∀ future, action ≠ .acknowledge future) :
      Step self codec world (.outbox action) (world.setOutbox after)
  -- The broker stores a record, whoever has sent it and however often.
  | append
      {partition : Nat}
      {value : Bytes} :
      Step self codec world (.append partition value)
        { world with
          topic :=
            Function.update world.topic partition
              (world.topic partition ++ [value]) }
  -- With `acks="all"` the broker acknowledges what it has stored.
  | acknowledge
      {future partition : Nat}
      {sent : Sent}
      {after : OutboxWorld Hash}
      (found : world.outbox.sends[future]? = some sent)
      (stored : codec.encode sent.value ∈ world.topic partition)
      (step : world.outbox.Step self (.acknowledge future) after) :
      Step self codec world (.acknowledge future) (world.setOutbox after)
  | join
      {slot : Nat}
      (idle : world.consumers slot = none) :
      Step self codec world (.join slot) (world.setConsumer slot (some {}))
  -- Partitions are assigned within `poll`; reading starts where the group is.
  | assign
      {slot : Nat}
      {consumer : Consumer Bytes}
      {positions : Nat → Option Nat}
      (working : world.consumers slot = some consumer)
      (idle : consumer.current = none)
      (fromCommitted :
        ∀ partition offset,
          positions partition = some offset →
          offset = world.committed partition) :
      Step self codec world (.assign slot)
        (world.setConsumer slot (some { positions := positions }))
  | poll
      {slot partition offset : Nat}
      {value : Bytes}
      {consumer : Consumer Bytes}
      (working : world.consumers slot = some consumer)
      (idle : consumer.current = none)
      (position : consumer.positions partition = some offset)
      (found : (world.topic partition)[offset]? = some value) :
      Step self codec world (.poll slot partition)
        (world.setConsumer slot (some {
          positions :=
            Function.update consumer.positions partition (some (offset + 1))
          current := some {
            partition := partition
            offset := offset
            value := value } }))
  | consume
      {slot attempt : Nat}
      {ambient : Ambient}
      {consumer : Consumer Bytes}
      {polled : Polled Bytes}
      {envelope : Envelope}
      {after : OutboxWorld Hash}
      (working : world.consumers slot = some consumer)
      (has : consumer.current = some polled)
      (trying : polled.handling = .trying attempt)
      (decoded : codec.decode polled.value = some envelope)
      (step :
        world.outbox.Step self (.transact (.consumeEvent envelope) ambient)
          after)
      (accepted :
        consumeEvent envelope ambient world.db = .ok after.db) :
      Step self codec world (.consume slot ambient)
        ((world.setOutbox after).setConsumer slot (some {
          consumer with
          current := some { polled with handling := .handled } }))
  -- The record is no envelope, or the transaction raised.  If it committed
  -- nevertheless, that is a step of the outbox before this one.
  | failAttempt
      {slot attempt : Nat}
      {consumer : Consumer Bytes}
      {polled : Polled Bytes}
      (working : world.consumers slot = some consumer)
      (has : consumer.current = some polled)
      (trying : polled.handling = .trying attempt) :
      Step self codec world (.failAttempt slot)
        (world.setConsumer slot (some {
          consumer with
          current := some {
            polled with handling := .afterFailure attempt } }))
  | bury
      {slot : Nat}
      {id : Uuid}
      {consumer : Consumer Bytes}
      {polled : Polled Bytes}
      {letters : Table (DeadLetter Text)}
      (working : world.consumers slot = some consumer)
      (has : consumer.current = some polled)
      (burying : polled.handling = .burying)
      (inserted :
        world.deadLetters.insert?
          { eventId := id, raw := codec.text polled.value } =
          some letters)
      (unused : world.Unused id) :
      Step self codec world (.bury slot id)
        ((world.setLetters letters).setConsumer slot (some {
          consumer with
          current := some { polled with handling := .handled } }))
  -- `consumer.seek(...)`, then `raise`.  The insertion may have been committed.
  | failBury
      {slot : Nat}
      {id : Uuid}
      {consumer : Consumer Bytes}
      {polled : Polled Bytes}
      {letters : Table (DeadLetter Text)}
      (working : world.consumers slot = some consumer)
      (has : consumer.current = some polled)
      (burying : polled.handling = .burying)
      (written :
        letters = world.deadLetters ∨
          world.deadLetters.insert?
            { eventId := id, raw := codec.text polled.value } =
            some letters)
      (unused : world.Unused id) :
      Step self codec world (.failBury slot id)
        ((world.setLetters letters).setConsumer slot (some {
          positions :=
            Function.update consumer.positions polled.partition
              (some polled.offset) }))
  | commit
      {slot : Nat}
      {consumer : Consumer Bytes}
      {polled : Polled Bytes}
      (working : world.consumers slot = some consumer)
      (has : consumer.current = some polled)
      (handled : polled.handling = .handled) :
      Step self codec world (.commit slot)
        ({ world with
          committed := consumer.commit world.committed }.setConsumer slot
            (some { consumer with current := none }))
  | failCommit
      {slot : Nat}
      {consumer : Consumer Bytes}
      {polled : Polled Bytes}
      (working : world.consumers slot = some consumer)
      (has : consumer.current = some polled)
      (handled : polled.handling = .handled) :
      Step self codec world (.failCommit slot)
        (world.setConsumer slot (some { consumer with current := none }))
  | crash
      {slot : Nat} :
      Step self codec world (.crash slot) (world.setConsumer slot none)
  | readLetter
      {slot : Nat}
      {id : Uuid}
      {letter : DeadLetter Text}
      (idle : world.replays slot = none)
      (found : world.deadLetters.find? id = some letter) :
      Step self codec world (.readLetter slot id)
        (world.setReplay slot (some (.read letter)))
  | replay
      {slot : Nat}
      {ambient : Ambient}
      {letter : DeadLetter Text}
      {envelope : Envelope}
      {after : OutboxWorld Hash}
      (working : world.replays slot = some (.read letter))
      (parsed : codec.parse letter.raw = some envelope)
      (step :
        world.outbox.Step self (.transact (.consumeEvent envelope) ambient)
          after)
      (accepted :
        consumeEvent envelope ambient world.db = .ok after.db) :
      Step self codec world (.replay slot ambient)
        ((world.setOutbox after).setReplay slot (some (.consumed letter)))
  | deleteLetter
      {slot : Nat}
      {letter : DeadLetter Text}
      (working : world.replays slot = some (.consumed letter)) :
      Step self codec world (.deleteLetter slot)
        ((world.setLetters
          (world.deadLetters.remove fun row =>
            decide (row.eventId = letter.eventId))).setReplay slot none)
  | stopReplay
      {slot : Nat} :
      Step self codec world (.stopReplay slot) (world.setReplay slot none)

end Steps

/-! ## The inbox only grows -/

/-- Taken events stay taken. -/
def InboxKept (db after : Database Hash) : Prop :=
  ∀ id,
    db.consumerInbox.find? id ≠ none →
    after.consumerInbox.find? id ≠ none

theorem InboxKept.refl (db : Database Hash) : InboxKept db db :=
  fun _ taken => taken

theorem inboxKept_of_consumeEvent
    {envelope : Envelope}
    {ambient : Ambient}
    {db after : Database Hash}
    (accepted : consumeEvent envelope ambient db = .ok after) :
    InboxKept db after :=
  fun id taken => (inbox_of_consumeEvent accepted id).mpr (Or.inr taken)

section Inbox

variable
  [DecidableEq Hash]
  {self : PostgresReservations Hash}

theorem inboxKept_of_transaction
    (call : Call Hash)
    (ambient : Ambient)
    (db : Database Hash) :
    InboxKept db (self.transaction call ambient db).2 := by
  have step : self.Step db ⟨call, ambient⟩
      (self.transaction call ambient db).2 := rfl
  rcases step.committed with rolledBack | ⟨result, accepted⟩
  · rw [rolledBack]
    exact .refl db
  · cases isEnvelope : call.envelope? with
    | none =>
        have frame :=
          PostgresReservations.frame_of_body isEnvelope accepted
        intro id taken
        rw [frame.inbox]
        exact taken
    | some envelope =>
        cases call with
        | consumeEvent own =>
            simp only [PostgresReservations.body, bind_eq_ok, pure_eq_ok,
              Prod.mk.injEq] at accepted
            obtain ⟨_, accepted, _, isAfter⟩ := accepted
            rw [← isAfter]
            exact inboxKept_of_consumeEvent accepted
        | _ => cases isEnvelope

theorem OutboxWorld.Step.inboxKept
    {world after : OutboxWorld Hash}
    {action : OutboxAction Hash}
    (step : world.Step self action after) :
    InboxKept world.db after.db := by
  cases step with
  | transact isAfter =>
      rw [isAfter]
      exact inboxKept_of_transaction _ _ _
  | tick | claim | send | stopSending | acknowledge | get | failGet | confirm
  | crash =>
      exact .refl _

/-- Only the broker acknowledges. -/
theorem OutboxWorld.Step.acknowledged_before
    {world after : OutboxWorld Hash}
    {action : OutboxAction Hash}
    {sent : Sent}
    (step : world.Step self action after)
    (elsewhere : ∀ future, action ≠ .acknowledge future)
    (member : sent ∈ after.sends)
    (acknowledged : sent.acknowledged = true) :
    sent ∈ world.sends := by
  cases step with
  | @acknowledge future => exact absurd rfl (elsewhere future)
  | send =>
      rcases List.mem_append.mp member with old | new
      · exact old
      · rw [List.mem_singleton.mp new] at acknowledged
        cases acknowledged
  | transact | tick | claim | stopSending | get | failGet | confirm
  | crash =>
      exact member

end Inbox

/-! ## What happens to a record -/

/-- The envelope was read, and its event is in the inbox. -/
def Taken (db : Database Hash) (envelope? : Option Envelope) : Prop :=
  ∃ envelope,
    envelope? = some envelope ∧
      db.consumerInbox.find? envelope.eventId ≠ none

theorem Taken.kept
    {db after : Database Hash}
    {envelope? : Option Envelope}
    (kept : InboxKept db after)
    (taken : Taken db envelope?) :
    Taken after envelope? := by
  obtain ⟨envelope, isEnvelope, inInbox⟩ := taken
  exact ⟨envelope, isEnvelope, kept _ inInbox⟩

theorem taken_of_consumeEvent
    {envelope : Envelope}
    {ambient : Ambient}
    {db after : Database Hash}
    (accepted : consumeEvent envelope ambient db = .ok after) :
    Taken after (some envelope) :=
  ⟨envelope, rfl, (inbox_of_consumeEvent accepted _).mpr (Or.inl rfl)⟩

/-- The record is a dead letter, or its event was taken. -/
def DeliveryWorld.Recorded
    (codec : Codec Bytes Text)
    (world : DeliveryWorld Hash Bytes Text)
    (value : Bytes) : Prop :=
  (∃ letter ∈ world.deadLetters, letter.raw = codec.text value) ∨
    Taken world.db (codec.decode value) ∨
    Taken world.db (codec.parse (codec.text value))

/-- What no step undoes. -/
structure DeliveryWorld.Advances
    (codec : Codec Bytes Text)
    (world after : DeliveryWorld Hash Bytes Text) : Prop where
  inbox : InboxKept world.db after.db
  letters :
    ∀ letter ∈ world.deadLetters,
      letter ∈ after.deadLetters ∨
        Taken after.db (codec.parse letter.raw)
  topic :
    ∀ partition,
      ∃ added, after.topic partition = world.topic partition ++ added

section Advances

variable
  {codec : Codec Bytes Text}
  {world after : DeliveryWorld Hash Bytes Text}

theorem DeliveryWorld.Advances.of_eq
    (db : after.db = world.db)
    (letters : after.deadLetters = world.deadLetters)
    (topic : after.topic = world.topic) :
    world.Advances codec after where
  inbox := by
    rw [db]
    exact .refl _
  letters := by
    intro letter member
    rw [letters]
    exact Or.inl member
  topic := fun partition =>
    ⟨[], by rw [topic, List.append_nil]⟩

theorem DeliveryWorld.Recorded.kept
    {value : Bytes}
    (advances : world.Advances codec after)
    (recorded : world.Recorded codec value) :
    after.Recorded codec value := by
  rcases recorded with ⟨letter, member, isRaw⟩ | taken | taken
  · rcases advances.letters letter member with still | taken
    · exact Or.inl ⟨letter, still, isRaw⟩
    · rw [isRaw] at taken
      exact Or.inr (Or.inr taken)
  · exact Or.inr (Or.inl (taken.kept advances.inbox))
  · exact Or.inr (Or.inr (taken.kept advances.inbox))

/-- A record within the topic stays where it is. -/
theorem DeliveryWorld.Advances.getElem?
    {partition offset : Nat}
    (advances : world.Advances codec after)
    (within : offset < (world.topic partition).length) :
    (after.topic partition)[offset]? = (world.topic partition)[offset]? := by
  obtain ⟨added, grown⟩ := advances.topic partition
  rw [grown, List.getElem?_append_left within]

theorem DeliveryWorld.Advances.length_le
    (advances : world.Advances codec after)
    (partition : Nat) :
    (world.topic partition).length ≤ (after.topic partition).length := by
  obtain ⟨added, grown⟩ := advances.topic partition
  rw [grown, List.length_append]
  exact Nat.le_add_right _ _

end Advances

/-! ## The invariant -/

/-- The consumer has the record and is not done with it. -/
def Consumer.Has
    (consumer : Consumer Bytes)
    (partition offset : Nat) : Prop :=
  ∃ polled,
    consumer.current = some polled ∧
      polled.partition = partition ∧
      polled.offset = offset ∧
      polled.handling ≠ .handled

/-- Behind its positions a consumer leaves nothing but the record it has. -/
structure Consumer.Sound
    (codec : Codec Bytes Text)
    (world : DeliveryWorld Hash Bytes Text)
    (consumer : Consumer Bytes) : Prop where
  within :
    ∀ {partition position},
      consumer.positions partition = some position →
      position ≤ (world.topic partition).length
  behind :
    ∀ {partition position offset value},
      consumer.positions partition = some position →
      offset < position →
      (world.topic partition)[offset]? = some value →
      world.Recorded codec value ∨ consumer.Has partition offset
  current :
    ∀ {polled},
      consumer.current = some polled →
      (world.topic polled.partition)[polled.offset]? = some polled.value ∧
        consumer.positions polled.partition = some (polled.offset + 1) ∧
        (polled.handling = .handled → world.Recorded codec polled.value)

/-- A replay has its letter, and what it has consumed was taken. -/
structure Replay.Sound
    (codec : Codec Bytes Text)
    (world : DeliveryWorld Hash Bytes Text)
    (replay : Replay Text) : Prop where
  same :
    ∀ other ∈ world.deadLetters,
      other.eventId = replay.letter.eventId → other = replay.letter
  taken :
    ∀ letter,
      replay = .consumed letter → Taken world.db (codec.parse letter.raw)

structure DeliverySound
    (codec : Codec Bytes Text)
    (world : DeliveryWorld Hash Bytes Text) : Prop where
  outbox : OutboxSound world.outbox
  stored :
    ∀ sent ∈ world.outbox.sends,
      sent.acknowledged = true →
      ∃ partition, codec.encode sent.value ∈ world.topic partition
  within :
    ∀ partition, world.committed partition ≤ (world.topic partition).length
  committed :
    ∀ {partition offset value},
      offset < world.committed partition →
      (world.topic partition)[offset]? = some value →
      world.Recorded codec value
  consumers :
    ∀ {slot consumer},
      world.consumers slot = some consumer →
      consumer.Sound codec world
  replays :
    ∀ {slot replay},
      world.replays slot = some replay →
      replay.Sound codec world

section Kept

variable
  {codec : Codec Bytes Text}
  {world after : DeliveryWorld Hash Bytes Text}

theorem Consumer.Sound.kept
    {consumer : Consumer Bytes}
    (advances : world.Advances codec after)
    (sound : consumer.Sound codec world) :
    consumer.Sound codec after where
  within := fun position =>
    (sound.within position).trans (advances.length_le _)
  behind := by
    intro partition position offset value isPosition before found
    rw [advances.getElem?
      (Nat.lt_of_lt_of_le before (sound.within isPosition))] at found
    exact (sound.behind isPosition before found).imp_left
      fun recorded => recorded.kept advances
  current := by
    intro polled has
    obtain ⟨found, position, handled⟩ := sound.current has
    have within := (List.getElem?_eq_some_iff.mp found).1
    rw [advances.getElem? within]
    exact ⟨found, position, fun isHandled =>
      (handled isHandled).kept advances⟩

/-- Without a record in hand, everything behind the positions is recorded. -/
theorem Consumer.Sound.recorded
    {consumer : Consumer Bytes}
    {partition position offset : Nat}
    {value : Bytes}
    (sound : consumer.Sound codec world)
    (idle : ∀ polled, consumer.current = some polled → polled.handling = .handled)
    (isPosition : consumer.positions partition = some position)
    (before : offset < position)
    (found : (world.topic partition)[offset]? = some value) :
    world.Recorded codec value := by
  rcases sound.behind isPosition before found with
    recorded | ⟨polled, has, _, _, unhandled⟩
  · exact recorded
  · exact absurd (idle polled has) unhandled

/-- A consumer that was assigned partitions starts where the group is. -/
theorem DeliverySound.assigned
    {positions : Nat → Option Nat}
    (sound : DeliverySound codec world)
    (fromCommitted :
      ∀ partition offset,
        positions partition = some offset →
        offset = world.committed partition) :
    ({ positions := positions } : Consumer Bytes).Sound codec world where
  within := by
    intro partition position isPosition
    rw [fromCommitted partition position isPosition]
    exact sound.within partition
  behind := by
    intro partition position offset value isPosition before found
    rw [fromCommitted partition position isPosition] at before
    exact Or.inl (sound.committed before found)
  current := by
    intro polled has
    cases has

/-- Polling steps over the record that the consumer then has. -/
theorem Consumer.Sound.poll
    {consumer : Consumer Bytes}
    {partition offset : Nat}
    {value : Bytes}
    (sound : consumer.Sound codec world)
    (idle : consumer.current = none)
    (isPosition : consumer.positions partition = some offset)
    (found : (world.topic partition)[offset]? = some value) :
    ({ positions :=
        Function.update consumer.positions partition (some (offset + 1))
       current := some {
        partition := partition
        offset := offset
        value := value } } : Consumer Bytes).Sound codec world where
  within := by
    intro other position updated
    by_cases same : other = partition
    · subst same
      simp only [Function.update_self, Option.some.injEq] at updated
      rw [← updated]
      exact (List.getElem?_eq_some_iff.mp found).1
    · simp only [Function.update_of_ne same] at updated
      exact sound.within updated
  behind := by
    intro other position earlier record updated before recordFound
    have idleCurrent :
        ∀ polled,
          consumer.current = some polled → polled.handling = .handled := by
      intro polled has
      rw [idle] at has
      cases has
    by_cases same : other = partition
    · subst same
      simp only [Function.update_self, Option.some.injEq] at updated
      by_cases own : earlier = offset
      · right
        exact ⟨_, rfl, rfl, own.symm, by simp⟩
      · left
        have earlierThan : earlier < offset := by omega
        exact sound.recorded idleCurrent isPosition earlierThan recordFound
    · simp only [Function.update_of_ne same] at updated
      exact Or.inl (sound.recorded idleCurrent updated before recordFound)
  current := by
    intro polled has
    cases has
    exact ⟨found, Function.update_self _ _ _, by simp⟩

/-- A failed attempt leaves the record with the consumer. -/
theorem Consumer.Sound.failAttempt
    {consumer : Consumer Bytes}
    {polled : Polled Bytes}
    {handling : Handling}
    (sound : consumer.Sound codec world)
    (has : consumer.current = some polled)
    (unhandled : handling ≠ .handled) :
    ({ consumer with
        current := some { polled with handling := handling } } :
      Consumer Bytes).Sound codec world where
  within := sound.within
  behind := by
    intro partition position offset value isPosition before found
    apply (sound.behind isPosition before found).imp_right
    rintro ⟨other, isOther, isPartition, isOffset, _⟩
    rw [has] at isOther
    cases isOther
    exact ⟨_, rfl, isPartition, isOffset, unhandled⟩
  current := by
    intro other isOther
    cases isOther
    obtain ⟨found, position, _⟩ := sound.current has
    exact ⟨found, position, fun isHandled => absurd isHandled unhandled⟩

/-- A record that is recorded somewhere is handled. -/
theorem Consumer.Sound.handle
    {consumer : Consumer Bytes}
    {polled : Polled Bytes}
    (sound : consumer.Sound codec world)
    (has : consumer.current = some polled)
    (recorded : world.Recorded codec polled.value) :
    ({ consumer with
        current := some { polled with handling := .handled } } :
      Consumer Bytes).Sound codec world := by
  obtain ⟨own, position, _⟩ := sound.current has
  refine ⟨sound.within, ?_, ?_⟩
  · intro partition other offset value isPosition before found
    left
    rcases sound.behind isPosition before found with
      isRecorded | ⟨current, isCurrent, isPartition, isOffset, _⟩
    · exact isRecorded
    · rw [has] at isCurrent
      cases isCurrent
      rw [isPartition, isOffset, found] at own
      cases own
      exact recorded
  · intro other isOther
    cases isOther
    exact ⟨own, position, fun _ => recorded⟩

/-- A consumer that is done with its record lets go of it. -/
theorem Consumer.Sound.letGo
    {consumer : Consumer Bytes}
    {polled : Polled Bytes}
    (sound : consumer.Sound codec world)
    (has : consumer.current = some polled)
    (handled : polled.handling = .handled) :
    ({ consumer with current := none } : Consumer Bytes).Sound
      codec world where
  within := sound.within
  behind := by
    intro partition position offset value isPosition before found
    left
    refine sound.recorded ?_ isPosition before found
    intro other isOther
    rw [has] at isOther
    cases isOther
    exact handled
  current := by
    intro other isOther
    cases isOther

/-- Seeking back to its record lets go of it, too. -/
theorem Consumer.Sound.seek
    {consumer : Consumer Bytes}
    {polled : Polled Bytes}
    (sound : consumer.Sound codec world)
    (has : consumer.current = some polled) :
    ({ positions :=
        Function.update consumer.positions polled.partition
          (some polled.offset) } : Consumer Bytes).Sound codec world := by
  obtain ⟨own, isPosition, _⟩ := sound.current has
  refine ⟨?_, ?_, by simp⟩
  · intro partition position updated
    by_cases same : partition = polled.partition
    · subst same
      simp only [Function.update_self, Option.some.injEq] at updated
      have within := sound.within isPosition
      omega
    · simp only [Function.update_of_ne same] at updated
      exact sound.within updated
  · intro partition position offset value updated before found
    left
    have old :
        ∃ further,
          consumer.positions partition = some further ∧
            offset < further ∧
            ¬ (polled.partition = partition ∧ polled.offset = offset) := by
      by_cases same : partition = polled.partition
      · subst same
        simp only [Function.update_self, Option.some.injEq] at updated
        exact ⟨_, isPosition, by omega, by omega⟩
      · simp only [Function.update_of_ne same] at updated
        exact ⟨position, updated, before, fun both => same both.1.symm⟩
    obtain ⟨further, isFurther, beforeFurther, distinct⟩ := old
    rcases sound.behind isFurther beforeFurther found with
      recorded | ⟨other, isOther, isPartition, isOffset, _⟩
    · exact recorded
    · rw [has] at isOther
      cases isOther
      exact absurd ⟨isPartition, isOffset⟩ distinct

/-- Steps that keep the letters of a replay keep what is known of it. -/
theorem Replay.Sound.kept
    {replay : Replay Text}
    (inbox : InboxKept world.db after.db)
    (letters :
      ∀ other ∈ after.deadLetters,
        other.eventId = replay.letter.eventId →
        other ∈ world.deadLetters)
    (sound : replay.Sound codec world) :
    replay.Sound codec after where
  same := fun other member sameId =>
    sound.same other (letters other member sameId) sameId
  taken := fun letter isConsumed =>
    (sound.taken letter isConsumed).kept inbox

end Kept

namespace DeliverySound

variable
  {codec : Codec Bytes Text}
  {world after : DeliveryWorld Hash Bytes Text}

/-- The parts of the invariant that advance with the world. -/
theorem advance
    (sound : DeliverySound codec world)
    (advances : world.Advances codec after)
    (outbox : OutboxSound after.outbox)
    (stored :
      ∀ sent ∈ after.outbox.sends,
        sent.acknowledged = true →
        ∃ partition, codec.encode sent.value ∈ after.topic partition)
    (committed : after.committed = world.committed)
    (consumers : after.consumers = world.consumers)
    (replays :
      ∀ {slot replay},
        after.replays slot = some replay →
        replay.Sound codec after) :
    DeliverySound codec after where
  outbox := outbox
  stored := stored
  within := by
    intro partition
    rw [committed]
    exact (sound.within partition).trans (advances.length_le partition)
  committed := by
    intro partition offset value before found
    rw [committed] at before
    rw [advances.getElem?
      (Nat.lt_of_lt_of_le before (sound.within partition))] at found
    exact (sound.committed before found).kept advances
  consumers := by
    intro slot consumer working
    rw [consumers] at working
    exact (sound.consumers working).kept advances
  replays := replays

/-- One consumer moves. -/
theorem setConsumer
    {slot : Nat}
    {consumer : Option (Consumer Bytes)}
    (sound : DeliverySound codec world)
    (next :
      ∀ moved, consumer = some moved → moved.Sound codec world) :
    DeliverySound codec (world.setConsumer slot consumer) := by
  have advances : world.Advances codec (world.setConsumer slot consumer) :=
    .of_eq rfl rfl rfl
  refine ⟨sound.outbox, sound.stored, sound.within, sound.committed, ?_, ?_⟩
  · intro other working found
    unfold DeliveryWorld.setConsumer at found
    by_cases same : other = slot
    · subst same
      simp only [Function.update_self] at found
      exact (next working found).kept advances
    · simp only [Function.update_of_ne same] at found
      exact (sound.consumers found).kept advances
  · intro other replay found
    exact (sound.replays found).kept advances.inbox fun _ member _ => member

/-- One replay moves. -/
theorem setReplay
    {slot : Nat}
    {replay : Option (Replay Text)}
    (sound : DeliverySound codec world)
    (next :
      ∀ moved, replay = some moved → moved.Sound codec world) :
    DeliverySound codec (world.setReplay slot replay) := by
  have advances : world.Advances codec (world.setReplay slot replay) :=
    .of_eq rfl rfl rfl
  refine ⟨sound.outbox, sound.stored, sound.within, sound.committed, ?_, ?_⟩
  · intro other consumer found
    exact (sound.consumers found).kept advances
  · intro other working found
    have moved : working.Sound codec world := by
      unfold DeliveryWorld.setReplay at found
      by_cases same : other = slot
      · subst same
        simp only [Function.update_self] at found
        exact next working found
      · simp only [Function.update_of_ne same] at found
        exact sound.replays found
    exact moved.kept advances.inbox fun _ member _ => member

/-- The outbox moves, and every acknowledged record is stored. -/
theorem setOutbox
    {outbox : OutboxWorld Hash}
    (sound : DeliverySound codec world)
    (inbox : InboxKept world.db outbox.db)
    (next : OutboxSound outbox)
    (stored :
      ∀ sent ∈ outbox.sends,
        sent.acknowledged = true →
        ∃ partition, codec.encode sent.value ∈ world.topic partition) :
    DeliverySound codec (world.setOutbox outbox) := by
  have advances : world.Advances codec (world.setOutbox outbox) :=
    ⟨inbox, fun _ member => Or.inl member, fun _ =>
      ⟨[], (List.append_nil _).symm⟩⟩
  exact sound.advance advances next stored rfl rfl fun found =>
    (sound.replays found).kept inbox fun _ member _ => member

/-- A letter is added under an identifier that nobody replays. -/
theorem addLetter
    {letter : DeadLetter Text}
    {letters : Table (DeadLetter Text)}
    (sound : DeliverySound codec world)
    (inserted : world.deadLetters.insert? letter = some letters)
    (unused : world.Unused letter.eventId) :
    DeliverySound codec (world.setLetters letters) := by
  have advances : world.Advances codec (world.setLetters letters) :=
    ⟨.refl _, fun _ member =>
      Or.inl ((Table.mem_of_insert? inserted).mpr (Or.inl member)),
      fun _ => ⟨[], (List.append_nil _).symm⟩⟩
  refine sound.advance advances sound.outbox sound.stored rfl rfl ?_
  intro slot replay found
  apply (sound.replays found).kept advances.inbox
  intro other member sameId
  rcases (Table.mem_of_insert? inserted).mp member with old | new
  · exact old
  · rw [new] at sameId
    exact absurd sameId.symm (unused slot replay found)

/-- A replay that is over removes only the letter of an event that was taken. -/
theorem removed
    {slot : Nat}
    {letter other : DeadLetter Text}
    (sound : DeliverySound codec world)
    (working : world.replays slot = some (.consumed letter))
    (member : other ∈ world.deadLetters) :
    other ∈ world.deadLetters.remove (fun row =>
        decide (row.eventId = letter.eventId)) ∨
      Taken world.db (codec.parse other.raw) := by
  have replayed := sound.replays working
  by_cases same : other.eventId = letter.eventId
  · rw [replayed.same other member same]
    exact Or.inr (replayed.taken letter rfl)
  · exact Or.inl (List.mem_filter.mpr ⟨member, by simpa using same⟩)

/-- A letter is removed after its replay. -/
theorem removeLetter
    {slot : Nat}
    {letter : DeadLetter Text}
    (sound : DeliverySound codec world)
    (working : world.replays slot = some (.consumed letter)) :
    DeliverySound codec
      (world.setLetters
        (world.deadLetters.remove fun row =>
          decide (row.eventId = letter.eventId))) := by
  have advances :
      world.Advances codec
        (world.setLetters
          (world.deadLetters.remove fun row =>
            decide (row.eventId = letter.eventId))) :=
    ⟨.refl _, fun _ member => sound.removed working member,
      fun _ => ⟨[], (List.append_nil _).symm⟩⟩
  refine sound.advance advances sound.outbox sound.stored rfl rfl ?_
  intro other replay found
  apply (sound.replays found).kept advances.inbox
  intro row member _
  exact (List.mem_filter.mp member).1

/-- Committed positions leave nothing behind. -/
theorem commit
    {slot : Nat}
    {consumer : Consumer Bytes}
    {polled : Polled Bytes}
    (sound : DeliverySound codec world)
    (working : world.consumers slot = some consumer)
    (has : consumer.current = some polled)
    (handled : polled.handling = .handled) :
    DeliverySound codec
      { world with committed := consumer.commit world.committed } := by
  have own := sound.consumers working
  have advances :
      world.Advances codec
        { world with committed := consumer.commit world.committed } :=
    .of_eq rfl rfl rfl
  refine ⟨sound.outbox, sound.stored, ?_, ?_, ?_, ?_⟩
  · intro partition
    cases isPosition : consumer.positions partition with
    | none =>
        simp only [Consumer.commit, isPosition, Option.getD_none]
        exact sound.within partition
    | some position =>
        simp only [Consumer.commit, isPosition, Option.getD_some]
        exact own.within isPosition
  · intro partition offset value before found
    cases isPosition : consumer.positions partition with
    | none =>
        simp only [Consumer.commit, isPosition, Option.getD_none] at before
        exact sound.committed before found
    | some position =>
        simp only [Consumer.commit, isPosition, Option.getD_some] at before
        refine own.recorded ?_ isPosition before found
        intro other isOther
        rw [has] at isOther
        cases isOther
        exact handled
  · intro other working found
    exact (sound.consumers found).kept advances
  · intro other replay found
    exact (sound.replays found).kept advances.inbox fun _ member _ => member

/-- The broker stores another record. -/
theorem append
    {partition : Nat}
    {value : Bytes}
    (sound : DeliverySound codec world) :
    DeliverySound codec
      { world with
        topic :=
          Function.update world.topic partition
            (world.topic partition ++ [value]) } := by
  have grows (other : Nat) :
      ∃ added,
        Function.update world.topic partition
            (world.topic partition ++ [value]) other =
          world.topic other ++ added := by
    by_cases same : other = partition
    · subst same
      exact ⟨[value], Function.update_self _ _ _⟩
    · exact ⟨[], by simp [Function.update_of_ne same]⟩
  refine sound.advance
    ⟨.refl _, fun _ member => Or.inl member, grows⟩ sound.outbox ?_ rfl rfl ?_
  · intro sent member acknowledged
    obtain ⟨other, stored⟩ := sound.stored sent member acknowledged
    obtain ⟨added, grown⟩ := grows other
    refine ⟨other, ?_⟩
    show _ ∈ Function.update world.topic partition _ other
    rw [grown]
    exact List.mem_append_left added stored
  · intro slot replay found
    exact (sound.replays found).kept (InboxKept.refl world.db)
      fun _ member _ => member

section Steps

variable
  [DecidableEq Hash]
  {self : PostgresReservations Hash}

/-- An outbox step in which the broker acknowledges nothing. -/
theorem outboxStep
    {action : OutboxAction Hash}
    {outbox : OutboxWorld Hash}
    (sound : DeliverySound codec world)
    (step : world.outbox.Step self action outbox)
    (elsewhere : ∀ future, action ≠ .acknowledge future) :
    DeliverySound codec (world.setOutbox outbox) :=
  sound.setOutbox step.inboxKept (sound.outbox.step step)
    fun sent member acknowledged =>
      sound.stored sent
        (step.acknowledged_before elsewhere member acknowledged)
        acknowledged

/-- The broker acknowledges what it has stored. -/
theorem acknowledge
    {future partition : Nat}
    {sent : Sent}
    {outbox : OutboxWorld Hash}
    (sound : DeliverySound codec world)
    (found : world.outbox.sends[future]? = some sent)
    (stored : codec.encode sent.value ∈ world.topic partition)
    (step : world.outbox.Step self (.acknowledge future) outbox) :
    DeliverySound codec (world.setOutbox outbox) := by
  refine sound.setOutbox step.inboxKept (sound.outbox.step step) ?_
  cases step with
  | acknowledge =>
      intro other member acknowledged
      obtain ⟨index, isOther⟩ := List.mem_iff_getElem?.mp member
      simp only [OutboxWorld.setSends, List.getElem?_modify,
        Option.map_eq_map, Option.map_eq_some_iff] at isOther
      obtain ⟨before, beforeFound, isOther⟩ := isOther
      by_cases same : future = index
      · rw [same, beforeFound] at found
        cases found
        rw [if_pos same] at isOther
        rw [← isOther]
        exact ⟨partition, stored⟩
      · rw [if_neg same] at isOther
        rw [← isOther] at acknowledged ⊢
        exact sound.stored before (List.mem_of_getElem? beforeFound)
          acknowledged

theorem step
    {action : DeliveryAction Hash Bytes}
    (sound : DeliverySound codec world)
    (step : world.Step self codec action after) :
    DeliverySound codec after := by
  cases step with
  | outbox step elsewhere => exact sound.outboxStep step elsewhere
  | append => exact sound.append
  | acknowledge found stored step => exact sound.acknowledge found stored step
  | join =>
      apply sound.setConsumer
      intro moved isMoved
      cases isMoved
      exact sound.assigned (by simp)
  | assign _ _ fromCommitted =>
      apply sound.setConsumer
      intro moved isMoved
      cases isMoved
      exact sound.assigned fromCommitted
  | poll working idle position found =>
      apply sound.setConsumer
      intro moved isMoved
      cases isMoved
      exact (sound.consumers working).poll idle position found
  | consume working has trying decoded step accepted =>
      have next := sound.outboxStep step (by simp)
      apply next.setConsumer
      intro moved isMoved
      cases isMoved
      refine (next.consumers working).handle has (Or.inr (Or.inl ?_))
      rw [decoded]
      exact taken_of_consumeEvent accepted
  | failAttempt working has =>
      apply sound.setConsumer
      intro moved isMoved
      cases isMoved
      refine (sound.consumers working).failAttempt has ?_
      unfold Handling.afterFailure
      split <;> simp
  | bury working has _ inserted unused =>
      have next := sound.addLetter inserted unused
      apply next.setConsumer
      intro moved isMoved
      cases isMoved
      refine (next.consumers working).handle has (Or.inl ?_)
      exact ⟨_, (Table.mem_of_insert? inserted).mpr (Or.inr rfl), rfl⟩
  | @failBury _ _ _ _ letters working has _ written unused =>
      have next : DeliverySound codec (world.setLetters letters) := by
        rcases written with same | inserted
        · rw [same]
          exact sound
        · exact sound.addLetter inserted unused
      apply next.setConsumer
      intro moved isMoved
      cases isMoved
      exact (next.consumers working).seek has
  | commit working has handled =>
      have next := sound.commit working has handled
      apply next.setConsumer
      intro moved isMoved
      cases isMoved
      exact (next.consumers working).letGo has handled
  | failCommit working has handled =>
      apply sound.setConsumer
      intro moved isMoved
      cases isMoved
      exact (sound.consumers working).letGo has handled
  | crash => exact sound.setConsumer (by simp)
  | readLetter _ found =>
      apply sound.setReplay
      intro moved isMoved
      cases isMoved
      refine ⟨?_, by simp⟩
      intro other member sameId
      exact Table.eq_of_key_eq member (Table.mem_of_find? found) sameId
  | replay working parsed step accepted =>
      have next := sound.outboxStep step (by simp)
      apply next.setReplay
      intro moved isMoved
      cases isMoved
      refine ⟨(next.replays working).same, ?_⟩
      intro letter isLetter
      cases isLetter
      rw [parsed]
      exact taken_of_consumeEvent accepted
  | deleteLetter working =>
      exact (sound.removeLetter working).setReplay (by simp)
  | stopReplay => exact sound.setReplay (by simp)

end Steps

end DeliverySound

/-- An initial store, an empty topic and nobody at work. -/
structure DeliveryWorld.Initial
    (world : DeliveryWorld Hash Bytes Text) : Prop where
  outbox : world.outbox.Initial
  fresh : world = { outbox := world.outbox }

theorem DeliveryWorld.Initial.sound
    {codec : Codec Bytes Text}
    {world : DeliveryWorld Hash Bytes Text}
    (initial : world.Initial) :
    DeliverySound codec world := by
  rw [initial.fresh]
  refine ⟨initial.outbox.sound, ?_, by simp, by simp, by simp, by simp⟩
  intro sent member
  rw [initial.outbox.unsent] at member
  cases member

/-- Read faithfully, a recorded row was taken or is a dead letter. -/
theorem DeliveryWorld.Recorded.of_encode
    {codec : Codec Bytes Text}
    {world : DeliveryWorld Hash Bytes Text}
    {envelope : Envelope}
    (faithful : codec.Faithful)
    (recorded : world.Recorded codec (codec.encode envelope)) :
    world.db.consumerInbox.find? envelope.eventId ≠ none ∨
      ∃ letter ∈ world.deadLetters,
        letter.raw = codec.text (codec.encode envelope) := by
  rcases recorded with letter | ⟨read, isRead, taken⟩ | ⟨read, isRead, taken⟩
  · exact Or.inr letter
  · rw [faithful.decode_encode] at isRead
    cases isRead
    exact Or.inl taken
  · rw [faithful.parse_text] at isRead
    cases isRead
    exact Or.inl taken

/-- Letters go only with the deletion that ends their replay. -/
theorem DeliverySound.letterKept
    [DecidableEq Hash]
    {self : PostgresReservations Hash}
    {codec : Codec Bytes Text}
    {world after : DeliveryWorld Hash Bytes Text}
    {action : DeliveryAction Hash Bytes}
    {letter : DeadLetter Text}
    (sound : DeliverySound codec world)
    (step : world.Step self codec action after)
    (member : letter ∈ world.deadLetters) :
    letter ∈ after.deadLetters ∨
      (∃ slot, action = .deleteLetter slot) ∧
        Taken world.db (codec.parse letter.raw) := by
  cases step with
  | bury _ _ _ inserted _ =>
      exact Or.inl ((Table.mem_of_insert? inserted).mpr (Or.inl member))
  | failBury _ _ _ written _ =>
      rcases written with rfl | inserted
      · exact Or.inl member
      · exact Or.inl ((Table.mem_of_insert? inserted).mpr (Or.inl member))
  | deleteLetter working =>
      exact (sound.removed working member).imp_right
        fun taken => ⟨⟨_, rfl⟩, taken⟩
  | outbox | append | acknowledge | join | assign | poll | consume
  | failAttempt | commit | failCommit | crash | readLetter | replay
  | stopReplay => exact Or.inl member

section Runs

variable [DecidableEq Hash]

/--
No event is lost between the outbox and the inbox.  In every reachable state
each record below the committed offsets is a dead letter or was taken.  A
published row stands in the topic, and once the group has committed past it, its
event was taken or waits as a dead letter.  No step but the deletion after a
replay removes a letter, and it removes only what was taken.
-/
theorem events_never_lost
    {self : PostgresReservations Hash}
    {codec : Codec Bytes Text}
    {start world : DeliveryWorld Hash Bytes Text}
    {trace : List (DeliveryAction Hash Bytes)}
    (faithful : codec.Faithful)
    (initial : start.Initial)
    (run : Run (DeliveryWorld.Step self codec) start trace world) :
    (∀ partition offset value,
      offset < world.committed partition →
      (world.topic partition)[offset]? = some value →
      world.Recorded codec value) ∧
    (∀ row ∈ world.db.outboxEvents,
      (world.outbox.columns row.id).publishedAt ≠ none →
      ∃ partition offset,
        (world.topic partition)[offset]? =
            some (codec.encode row.envelope) ∧
          (offset < world.committed partition →
            world.db.consumerInbox.find? row.id ≠ none ∨
              ∃ letter ∈ world.deadLetters,
                letter.raw = codec.text (codec.encode row.envelope))) ∧
    ∀ action after,
      world.Step self codec action after →
      ∀ letter ∈ world.deadLetters,
        letter ∉ after.deadLetters →
        (∃ slot, action = .deleteLetter slot) ∧
          Taken world.db (codec.parse letter.raw) := by
  have sound : DeliverySound codec world :=
    run.invariant initial.sound fun holds step => holds.step step
  refine ⟨fun _ _ _ before found => sound.committed before found, ?_, ?_⟩
  case refine_2 =>
    intro action after step letter member gone
    exact (sound.letterKept step member).resolve_left gone
  intro row member published
  obtain ⟨sent, sentMember, acknowledged, _, isEnvelope⟩ :=
    sound.outbox.published row member published
  obtain ⟨partition, stored⟩ := sound.stored sent sentMember acknowledged
  rw [isEnvelope] at stored
  obtain ⟨offset, found⟩ := List.mem_iff_getElem?.mp stored
  refine ⟨partition, offset, found, ?_⟩
  intro before
  exact (sound.committed before found).of_encode faithful

end Runs


/-! ## One announcement, delivered -/

/-- Envelopes are written as they are. -/
def plainCodec : Codec Envelope Envelope where
  encode := id
  decode := some
  text := id
  parse := some

theorem plainCodec_faithful : plainCodec.Faithful :=
  ⟨fun _ => rfl, fun _ => rfl⟩

/-- The announcement waits for its acknowledgement. -/
def deliveryAwaiting : DeliveryWorld Request Envelope Envelope where
  outbox := outboxAwaiting

/-- The broker has stored the announcement, and it is published. -/
def deliveryPublished : DeliveryWorld Request Envelope Envelope where
  outbox := outboxPublished
  topic := Function.update (fun _ => []) 0 [smallAnnouncement.envelope]

/-- A consumer reads the partition from its start. -/
def deliveryAssigned : DeliveryWorld Request Envelope Envelope :=
  (deliveryPublished.setConsumer 0 (some {})).setConsumer 0
    (some { positions := Function.update (fun _ => none) 0 (some 0) })

/-- The consumer with the announcement at the given stage. -/
def deliveryConsumer (handling : Handling) : Consumer Envelope where
  positions :=
    Function.update (Function.update (fun _ => none) 0 (some 0)) 0 (some 1)
  current := some {
    partition := 0
    offset := 0
    value := smallAnnouncement.envelope
    handling := handling }

/-- The outbox after the announcement was consumed. -/
def outboxConsumed : OutboxWorld Request where
  db :=
    (smallStore.transaction (.consumeEvent smallAnnouncement.envelope)
      (smallAmbient 2 500) outboxPublished.db).2
  columns :=
    insertedColumns (2 * second) outboxPublished.db.outboxEvents
      (smallStore.transaction (.consumeEvent smallAnnouncement.envelope)
        (smallAmbient 2 500) outboxPublished.db).2.outboxEvents
      outboxPublished.columns
  now := outboxPublished.now
  publishers := outboxPublished.publishers
  sends := outboxPublished.sends

/-- The event is in the inbox, and its offset is not committed yet. -/
def deliveryConsumed : DeliveryWorld Request Envelope Envelope :=
  ((deliveryAssigned.setConsumer 0
      (some (deliveryConsumer (.trying 0)))).setOutbox
    outboxConsumed).setConsumer 0 (some (deliveryConsumer .handled))

def deliveryCommitted : DeliveryWorld Request Envelope Envelope :=
  { deliveryConsumed with
    committed :=
      (deliveryConsumer .handled).commit
        deliveryConsumed.committed }.setConsumer 0
    (some { deliveryConsumer .handled with current := none })

/-- The consumer after some attempts that failed. -/
def deliveryFailed : Nat → DeliveryWorld Request Envelope Envelope
  | 0 =>
      deliveryAssigned.setConsumer 0 (some (deliveryConsumer (.trying 0)))
  | attempt + 1 =>
      (deliveryFailed attempt).setConsumer 0
        (some (deliveryConsumer (.afterFailure attempt)))

/-- The letter that takes the place of the announcement. -/
def deliveryLetter : DeadLetter Envelope where
  eventId := 800
  raw := smallAnnouncement.envelope

/-- The announcement is a dead letter, and its offset is committed. -/
def deliveryBuried : DeliveryWorld Request Envelope Envelope :=
  ((deliveryFailed 5).setLetters
    ⟨[deliveryLetter], by decide⟩).setConsumer 0
      (some (deliveryConsumer .handled))

def deliveryPassed : DeliveryWorld Request Envelope Envelope :=
  { deliveryBuried with
    committed :=
      (deliveryConsumer .handled).commit
        deliveryBuried.committed }.setConsumer 0
    (some { deliveryConsumer .handled with current := none })

/-- An operator has replayed the letter, but not deleted it yet. -/
def deliveryReplayed : DeliveryWorld Request Envelope Envelope :=
  ((deliveryPassed.setReplay 0 (some (.read deliveryLetter))).setOutbox
    outboxConsumed).setReplay 0 (some (.consumed deliveryLetter))

theorem run_deliveryAwaiting :
    Run (DeliveryWorld.Step smallStore plainCodec) { outbox := outboxStart }
      [.outbox
          (.transact (.reserve "alice" 1 ["A1"] "first")
            (smallAmbient 1 100)),
        .outbox (.claim 0 900 32 []), .outbox (.send 0),
        .outbox (.stopSending 0)] deliveryAwaiting := by
  have announces :
      OutboxWorld.Step smallStore outboxStart
        (.transact (.reserve "alice" 1 ["A1"] "first") (smallAmbient 1 100))
        outboxAnnounced :=
    .transact rfl
  have claims :
      OutboxWorld.Step smallStore outboxAnnounced (.claim 0 900 32 [])
        outboxLeased :=
    .claim rfl claims_outboxAnnounced (List.cons_ne_nil _ _)
  have sends : OutboxWorld.Step smallStore outboxLeased (.send 0) outboxSent :=
    .send rfl
  have stops :
      OutboxWorld.Step smallStore outboxSent (.stopSending 0)
        outboxAwaiting :=
    .stopSending rfl (by simp)
  exact .cons (.outbox announces (by simp)) (.cons (.outbox claims (by simp))
    (.cons (.outbox sends (by simp)) (.single (.outbox stops (by simp)))))

theorem run_deliveryPublished :
    Run (DeliveryWorld.Step smallStore plainCodec) deliveryAwaiting
      [.append 0 smallAnnouncement.envelope, .acknowledge 0,
        .outbox (.get 0), .outbox (.confirm 0 (.returned true))]
      deliveryPublished := by
  have acknowledges :
      OutboxWorld.Step smallStore outboxAwaiting (.acknowledge 0)
        outboxAcknowledged :=
    .acknowledge
  have gets :
      OutboxWorld.Step smallStore outboxAcknowledged (.get 0)
        outboxCollected :=
    .get rfl rfl rfl
  have confirms :
      OutboxWorld.Step smallStore outboxCollected
        (.confirm 0 (.returned true)) outboxPublished :=
    .confirm rfl rfl
  have stored :
      plainCodec.encode smallAnnouncement.envelope ∈
        (deliveryPublished.setOutbox outboxAwaiting).topic 0 := by
    decide
  have acknowledgesStored :
      DeliveryWorld.Step smallStore plainCodec
        (deliveryPublished.setOutbox outboxAwaiting) (.acknowledge 0)
        (deliveryPublished.setOutbox outboxAcknowledged) := by
    have found :
        (deliveryPublished.setOutbox outboxAwaiting).outbox.sends[0]? =
          some { key := 101, value := smallAnnouncement.envelope } :=
      rfl
    exact .acknowledge found stored acknowledges
  exact .cons .append (.cons acknowledgesStored
    (.cons (.outbox gets (by simp)) (.single (.outbox confirms (by simp)))))

theorem run_deliveryPolled :
    Run (DeliveryWorld.Step smallStore plainCodec) deliveryPublished
      [.join 0, .assign 0, .poll 0 0] (deliveryFailed 0) := by
  have assigns :
      DeliveryWorld.Step smallStore plainCodec
        (deliveryPublished.setConsumer 0 (some {})) (.assign 0)
        deliveryAssigned := by
    refine .assign rfl rfl ?_
    intro partition offset isOffset
    by_cases first : partition = 0
    · subst first
      exact (Option.some.inj isOffset).symm
    · simp [first] at isOffset
  have polls :
      DeliveryWorld.Step smallStore plainCodec deliveryAssigned (.poll 0 0)
        (deliveryAssigned.setConsumer 0
          (some (deliveryConsumer (.trying 0)))) := by
    have working :
        deliveryAssigned.consumers 0 =
          some { positions := Function.update (fun _ => none) 0 (some 0) } :=
      rfl
    have position :
        Function.update (fun _ => none) 0 (some 0) 0 = some 0 :=
      Function.update_self _ _ _
    exact .poll working rfl position rfl
  exact .cons (.join rfl) (.cons assigns (.single polls))

theorem run_deliveryCommitted :
    Run (DeliveryWorld.Step smallStore plainCodec) (deliveryFailed 0)
      [.consume 0 (smallAmbient 2 500), .commit 0] deliveryCommitted := by
  have consumes :
      DeliveryWorld.Step smallStore plainCodec (deliveryFailed 0)
        (.consume 0 (smallAmbient 2 500)) deliveryConsumed := by
    have working :
        (deliveryFailed 0).consumers 0 =
          some (deliveryConsumer (.trying 0)) :=
      rfl
    have steps :
        OutboxWorld.Step smallStore outboxPublished
          (.transact (.consumeEvent smallAnnouncement.envelope)
            (smallAmbient 2 500)) outboxConsumed :=
      .transact rfl
    exact .consume working rfl rfl rfl steps rfl
  exact .cons consumes (.single (.commit rfl rfl rfl))

theorem run_deliveryFailed :
    Run (DeliveryWorld.Step smallStore plainCodec) (deliveryFailed 0)
      [.failAttempt 0, .failAttempt 0, .failAttempt 0, .failAttempt 0,
        .failAttempt 0] (deliveryFailed 5) := by
  have fails
      {attempt : Nat}
      (working :
        (deliveryFailed attempt).consumers 0 =
          some (deliveryConsumer (.trying attempt))) :
      DeliveryWorld.Step smallStore plainCodec (deliveryFailed attempt)
        (.failAttempt 0) (deliveryFailed (attempt + 1)) :=
    .failAttempt working rfl rfl
  exact .cons (fails rfl) (.cons (fails rfl) (.cons (fails rfl)
    (.cons (fails rfl) (.single (fails rfl)))))

theorem run_deliveryReplayed :
    Run (DeliveryWorld.Step smallStore plainCodec) (deliveryFailed 5)
      [.bury 0 800, .commit 0, .readLetter 0 800,
        .replay 0 (smallAmbient 2 500)] deliveryReplayed := by
  have buries :
      DeliveryWorld.Step smallStore plainCodec (deliveryFailed 5)
        (.bury 0 800) deliveryBuried := by
    have working :
        (deliveryFailed 5).consumers 0 = some (deliveryConsumer .burying) :=
      rfl
    have nobody : (deliveryFailed 5).replays = fun _ => none := rfl
    refine .bury working rfl rfl rfl ?_
    intro slot replay found
    rw [nobody] at found
    cases found
  have replays :
      DeliveryWorld.Step smallStore plainCodec
        (deliveryPassed.setReplay 0 (some (.read deliveryLetter)))
        (.replay 0 (smallAmbient 2 500)) deliveryReplayed := by
    have working :
        (deliveryPassed.setReplay 0
            (some (.read deliveryLetter))).replays 0 =
          some (.read deliveryLetter) :=
      rfl
    have steps :
        OutboxWorld.Step smallStore outboxPublished
          (.transact (.consumeEvent smallAnnouncement.envelope)
            (smallAmbient 2 500)) outboxConsumed :=
      .transact rfl
    exact .replay working rfl steps rfl
  exact .cons buries (.cons (.commit rfl rfl rfl)
    (.cons (.readLetter rfl rfl) (.single replays)))

/--
The group has committed past the announcement, which a consumer took before.
Where the consumer has buried it instead, the letter that the operator deletes
was taken.
-/
theorem events_never_lost_smallSale :
    (deliveryCommitted.committed 0 = 1 ∧
      deliveryCommitted.Recorded plainCodec smallAnnouncement.envelope) ∧
    deliveryPassed.committed 0 = 1 ∧
      deliveryReplayed.deadLetters.rows = [deliveryLetter] ∧
      Taken deliveryReplayed.db (plainCodec.parse deliveryLetter.raw) := by
  have initial :
      DeliveryWorld.Initial
        ({ outbox := outboxStart } :
          DeliveryWorld Request Envelope Envelope) :=
    ⟨⟨smallSale_initial, rfl, rfl, rfl⟩, rfl⟩
  have polled :=
    run_deliveryAwaiting.append
      (run_deliveryPublished.append run_deliveryPolled)
  obtain ⟨recorded, _⟩ :=
    events_never_lost plainCodec_faithful initial
      (polled.append run_deliveryCommitted)
  obtain ⟨_, _, deletes⟩ :=
    events_never_lost plainCodec_faithful initial
      (polled.append (run_deliveryFailed.append run_deliveryReplayed))
  have removes :=
    @DeliveryWorld.Step.deleteLetter _ _ _ _ smallStore plainCodec
      deliveryReplayed 0 deliveryLetter rfl
  refine ⟨⟨rfl, recorded 0 0 _ (by decide) rfl⟩, rfl, rfl, ?_⟩
  exact (deletes _ _ removes deliveryLetter (by decide) (by decide)).2

end FlashTicketing
