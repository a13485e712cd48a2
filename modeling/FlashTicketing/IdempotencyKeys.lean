import FlashTicketing.PostgresRecords
import FlashTicketing.ReservationIntake

namespace FlashTicketing

open Relational Checked Transition

/-!
# Idempotency keys

A key binds one request and one effect, whichever of the two intake paths uses
it.  `idem` takes a stored record without a response for a key it has not seen,
so everything rests on the invariant that no committed record lacks one.
-/

variable {Hash : Type}

/-! ## Commands of the intake -/

/--
The calls that the writer makes: the payload and the reply of a command are the
ones that the intake built, and a command id names one command.
-/
def Call.IntakeBuilt
    (intake : RedisReservationIntake Hash)
    (issued : Uuid → NewCommand) : Call Hash → Prop
  | .persistReservationCommand payload reply =>
      payload = intake.payload (issued payload.commandId) ∧
        ∃ now total currency,
          reply =
            intake.response (issued payload.commandId) now total currency
  | _ => True

theorem sortedSeats_sortedSeats (seats : List SeatId) :
    sortedSeats (sortedSeats seats) = sortedSeats seats :=
  (List.pairwise_insertionSort _ _).insertionSort_eq

/-- The request that the writer recomputes is the one that the intake hashed. -/
theorem request_payload
    (intake : RedisReservationIntake Hash)
    (command : NewCommand) :
    (intake.payload command).request = command.request := by
  simp [CommandPayload.request, RedisReservationIntake.payload,
    NewCommand.request, NewCommand.seats, sortedSeats_sortedSeats]

section Built

variable
  {intake : RedisReservationIntake Hash}
  {issued : Uuid → NewCommand}
  {payload : CommandPayload Hash}
  {reply : CommandResponse}

theorem Call.IntakeBuilt.request_eq
    (built :
      (Call.persistReservationCommand payload reply).IntakeBuilt intake
        issued) :
    payload.request = (issued payload.commandId).request :=
  (congrArg CommandPayload.request built.1).trans
    (request_payload intake _)

theorem Call.IntakeBuilt.key_eq
    (built :
      (Call.persistReservationCommand payload reply).IntakeBuilt intake
        issued) :
    (payload.actor, Operation.hold, payload.idempotencyKey) =
      ((issued payload.commandId).actor, .hold,
        (issued payload.commandId).key) :=
  Prod.ext (congrArg CommandPayload.actor built.1)
    (Prod.ext rfl (congrArg CommandPayload.idempotencyKey built.1))

theorem Call.IntakeBuilt.ids_eq
    (built :
      (Call.persistReservationCommand payload reply).IntakeBuilt intake
        issued) :
    payload.holdId = (issued payload.commandId).holdId ∧
      payload.orderId = (issued payload.commandId).orderId :=
  ⟨congrArg CommandPayload.holdId built.1,
    congrArg CommandPayload.orderId built.1⟩

theorem Call.IntakeBuilt.honest
    (built :
      (Call.persistReservationCommand payload reply).IntakeBuilt intake
        issued) :
    intake.digest payload.request = payload.requestHash := by
  rw [built.request_eq]
  exact (congrArg CommandPayload.requestHash built.1).symm

end Built

/-! ## Records are never rewritten -/

/-- Stored records stay as they are. -/
def RecordsKept (db after : Database Hash) : Prop :=
  ∀ {key record},
    db.idempotencyRecords.find? key = some record →
    after.idempotencyRecords.find? key = some record

namespace Claimed

variable
  {digest : Request → Hash}
  {key : RecordKey}
  {request : Request}
  {response : Response}
  {db after : Database Hash}

theorem recordsKept
    (claimed : Claimed digest key request response db after) :
    RecordsKept db after := by
  intro other record found
  rw [claimed.records, if_neg, found]
  rintro rfl
  rw [claimed.unused] at found
  cases found

theorem responded
    (claimed : Claimed digest key request response db after)
    (before : Responded db) :
    Responded after := by
  intro other record found
  rw [claimed.records] at found
  split at found
  · cases found
    simp
  · exact before found

end Claimed

/-- What the two tables say of keys and commands. -/
structure KeysBound
    (digest : Request → Hash)
    (issued : Uuid → NewCommand)
    (db : Database Hash) : Prop where
  responded : Responded db
  commanded :
    ∀ {id row},
      db.reservationCommands.find? id = some row →
      row.requestHash = digest (issued id).request ∧
        row.response.ids =
          (some (issued id).holdId, (issued id).orderId, none) ∧
        ∃ record,
          db.idempotencyRecords.find?
              ((issued id).actor, .hold, (issued id).key) = some record ∧
            record.requestHash = row.requestHash ∧
            record.response = some row.response

/-- The record of a call that returned. -/
def Recorded
    (digest : Request → Hash)
    (label : Answered Hash)
    (db : Database Hash) : Prop :=
  ∀ key response,
    label.call.recordKey? = some key →
    label.answer = .ok (.response response) →
    ∃ request record stored,
      label.call.request? = some request ∧
        db.idempotencyRecords.find? key = some record ∧
        record.requestHash = digest request ∧
        record.response = some stored ∧
        stored.ids = response.ids

theorem Recorded.later
    {digest : Request → Hash}
    {label : Answered Hash}
    {db after : Database Hash}
    (recorded : Recorded digest label db)
    (kept : RecordsKept db after) :
    Recorded digest label after := by
  intro key response keyed answered
  obtain ⟨request, record, stored, asked, found, facts⟩ :=
    recorded key response keyed answered
  exact ⟨request, record, stored, asked, kept found, facts⟩

section Answers

variable
  {self : PostgresReservations Hash}
  {intake : RedisReservationIntake Hash}
  {issued : Uuid → NewCommand}
  {call : Call Hash}
  {ambient : Ambient}
  {response : Response}
  {db after : Database Hash}

theorem Answers.recordsKept
    (answers : Answers self call ambient response db after) :
    RecordsKept db after := by
  cases answers with
  | replayed _ _ _ _ _ _ _ _ _ unchanged =>
      rw [unchanged]
      exact fun found => found
  | recalled _ _ _ _ _ _ _ _ unchanged =>
      rw [unchanged]
      exact fun found => found
  | claimed _ _ _ _ claimed => exact claimed.recordsKept
  | persisted _ _ _ _ _ _ _ _ claimed => exact claimed.recordsKept

/-- A command's own call leaves the row that the invariant describes. -/
theorem Answers.keysBound
    (bound : KeysBound self.digest issued db)
    (built : call.IntakeBuilt intake issued)
    (answers : Answers self call ambient response db after) :
    KeysBound self.digest issued after := by
  have kept : RecordsKept db after := answers.recordsKept
  have oldRow :
      ∀ {id row},
        db.reservationCommands.find? id = some row →
        row.requestHash = self.digest (issued id).request ∧
          row.response.ids =
            (some (issued id).holdId, (issued id).orderId, none) ∧
          ∃ record,
            after.idempotencyRecords.find?
                ((issued id).actor, .hold, (issued id).key) =
                  some record ∧
              record.requestHash = row.requestHash ∧
              record.response = some row.response := by
    intro id row found
    obtain ⟨rowHash, ids, record, recordFound, facts⟩ :=
      bound.commanded found
    exact ⟨rowHash, ids, record, kept recordFound, facts⟩
  cases answers with
  | replayed _ _ _ _ _ _ _ _ _ unchanged =>
      rw [unchanged]
      exact bound
  | recalled _ _ _ _ _ _ _ _ unchanged =>
      rw [unchanged]
      exact bound
  | claimed _ _ _ _ claimed commands =>
      refine ⟨claimed.responded bound.responded, ?_⟩
      rw [commands]
      exact oldRow
  | persisted payload reply _ _ _ _ called honest claimed _ _ _ _ _
      commands replyIds =>
      refine ⟨claimed.responded bound.responded, ?_⟩
      intro id row found
      rw [commands] at found
      split at found
      · rename_i sameId
        cases found
        rw [called] at built
        obtain ⟨issuedAt, total, currency, replyIs⟩ := built.2
        rw [sameId, ← built.request_eq]
        refine ⟨honest.symm, ?_, ?_⟩
        · rw [CommandPayload.row, replyIds, replyIs]
          rfl
        · exact ⟨_, (claimed.records _).trans (if_pos built.key_eq.symm),
            honest, rfl⟩
      · exact oldRow found

/-- A call that returned has its record. -/
theorem Answers.recorded
    {label : Answered Hash}
    (bound : KeysBound self.digest issued db)
    (built : label.call.IntakeBuilt intake issued)
    (answered : label.answer = .ok (.response response))
    (answers : Answers self label.call ambient response db after) :
    Recorded self.digest label after := by
  intro key otherResponse keyed otherAnswered
  have sameResponse : otherResponse = response := by
    rw [answered] at otherAnswered
    cases otherAnswered
    rfl
  subst sameResponse
  cases answers with
  | replayed ownKey request record ownKeyed asked found sameHash stored _
      unchanged =>
      rw [keyed] at ownKeyed
      cases ownKeyed
      exact ⟨request, record, otherResponse, asked,
        by rw [unchanged]; exact found, sameHash, stored, rfl⟩
  | recalled payload reply row called honest found sameHash stored
      unchanged =>
      obtain ⟨_, _, record, recordFound, recordHash, recordStored⟩ :=
        bound.commanded found
      rw [called] at built keyed ⊢
      cases keyed
      refine ⟨payload.request, record, row.response, rfl, ?_, ?_,
        recordStored, by rw [stored]⟩
      · rw [unchanged, built.key_eq]
        exact recordFound
      · rw [recordHash, sameHash, honest]
  | claimed ownKey request ownKeyed asked claimed =>
      rw [keyed] at ownKeyed
      cases ownKeyed
      exact ⟨request, _, otherResponse, asked,
        (claimed.records _).trans (if_pos rfl), rfl, rfl, rfl⟩
  | persisted payload reply _ _ _ _ called _ claimed =>
      rw [called] at keyed ⊢
      cases keyed
      exact ⟨payload.request, _, otherResponse, rfl,
        (claimed.records _).trans (if_pos rfl), rfl, rfl, rfl⟩

end Answers

/-! ## Mismatches -/

section Mismatches

variable [DecidableEq Hash]

/-- `idem` on a stored record compares the request and changes nothing. -/
theorem idem_of_find?
    {digest : Request → Hash}
    {actor : Actor}
    {operation : Operation}
    {key : IdempotencyKey}
    {record : IdempotencyRecord Hash}
    {db : Database Hash}
    (found :
      db.idempotencyRecords.find? (actor, operation, key) = some record)
    (request : Request) :
    idem digest actor operation key request db =
      if record.requestHash = digest request then
        .ok (record.response, db)
      else
        .error (fail .idempotencyMismatch) := by
  have taken :
      db.idempotencyRecords.insert? {
        actor := actor
        operation := operation
        key := key
        requestHash := digest request } = none :=
    Table.insert?_eq_none_of_find? found
  unfold idem
  rw [taken, found]
  simp only [require_some, ok_bind]
  split
  · rename_i same
    rw [ensure_bind_of_true same]
    rfl
  · rename_i different
    rw [ensure_bind_of_not different]

/-- The idempotency frame on a stored record of another request. -/
theorem idempotent_mismatch
    {digest : Request → Hash}
    {actor : Actor}
    {operation : Operation}
    {key : IdempotencyKey}
    {request : Request}
    {record : IdempotencyRecord Hash}
    {body : Database Hash → Except Error (Response × Database Hash)}
    {db : Database Hash}
    (found :
      db.idempotencyRecords.find? (actor, operation, key) = some record)
    (different : record.requestHash ≠ digest request) :
    idempotent digest actor operation key request body db =
      .error (fail .idempotencyMismatch) := by
  rw [idempotent, idem_of_find? found, if_neg different, error_bind]

variable
  {self : PostgresReservations Hash}
  {intake : RedisReservationIntake Hash}
  {issued : Uuid → NewCommand}
  {db : Database Hash}

/-- The writer on a command that was not recorded, whose key was. -/
theorem persist_of_find?
    {payload : CommandPayload Hash}
    {reply : CommandResponse}
    {ambient : Ambient}
    {record : IdempotencyRecord Hash}
    {stored : Response}
    (honest : self.digest payload.request = payload.requestHash)
    (unrecorded : db.reservationCommands.find? payload.commandId = none)
    (found :
      db.idempotencyRecords.find?
        (payload.actor, .hold, payload.idempotencyKey) = some record)
    (isStored : record.response = some stored) :
    self.persistReservationCommand payload reply ambient db =
      if record.requestHash = self.digest payload.request then
        if stored.holdId? = some payload.holdId ∧
            stored.orderId = payload.orderId then
          .ok (stored, db)
        else
          .error (fail .reservationCommandMismatch)
      else
        .error (fail .idempotencyMismatch) := by
  rw [PostgresReservations.persistReservationCommand,
    ensure_bind_of_true honest, unrecorded]
  simp only [idem_of_find? found]
  split
  · simp only [ok_bind, isStored]
    split
    · rename_i sameIds
      rw [ensure_bind_of_true sameIds]
      rfl
    · rename_i differentIds
      rw [ensure_bind_of_not differentIds]
  · rfl

/-- A call of another request under a recorded key is a mismatch. -/
theorem body_mismatch
    {call : Call Hash}
    {key : RecordKey}
    {request : Request}
    {record : IdempotencyRecord Hash}
    {ambient : Ambient}
    (sameDigest : intake.digest = self.digest)
    (bound : KeysBound self.digest issued db)
    (built : call.IntakeBuilt intake issued)
    (keyed : call.recordKey? = some key)
    (asked : call.request? = some request)
    (found : db.idempotencyRecords.find? key = some record)
    (different : record.requestHash ≠ self.digest request) :
    self.body call ambient db = .error (fail .idempotencyMismatch) := by
  cases call with
  | reserve actor eventId seatIds callKey =>
      cases keyed
      have reserved :
          self.reserve actor eventId seatIds callKey ambient db =
            .error (fail .idempotencyMismatch) := by
        have isRequest :
            PostgresReservations.reserveRequest eventId seatIds =
              some request := asked
        rw [PostgresReservations.reserve, isRequest, require_some,
          ok_bind, idempotent_mismatch found different]
      rw [PostgresReservations.body, reserved, error_bind]
  | checkout actor holdId callKey =>
      cases keyed
      cases asked
      rw [PostgresReservations.body, PostgresReservations.checkout,
        idempotent_mismatch found different, error_bind]
  | initiatePayment actor orderId callKey outcome delaySeconds
      duplicates =>
      cases keyed
      cases asked
      rw [PostgresReservations.body, PostgresReservations.initiatePayment,
        idempotent_mismatch found different, error_bind]
  | persistReservationCommand payload reply =>
      cases keyed
      cases asked
      have honest : self.digest payload.request = payload.requestHash := by
        rw [← sameDigest]
        exact built.honest
      cases command : db.reservationCommands.find? payload.commandId with
      | none =>
          obtain ⟨stored, isStored⟩ :=
            Option.ne_none_iff_exists'.mp (bound.responded found)
          rw [PostgresReservations.body,
            persist_of_find? honest command found isStored,
            if_neg different, error_bind]
      | some row =>
          -- A recorded command is the one that the key was recorded for.
          obtain ⟨rowHash, _, ownRecord, ownFound, ownHash, _⟩ :=
            bound.commanded command
          rw [← built.key_eq, found] at ownFound
          cases ownFound
          rw [ownHash, rowHash, built.request_eq] at different
          exact (different rfl).elim
  | release => cases keyed
  | expireBatch => cases keyed
  | callback => cases keyed
  | consumeEvent => cases keyed

/-- A command whose key is recorded with other identifiers is a mismatch. -/
theorem body_idsMismatch
    {payload : CommandPayload Hash}
    {reply : CommandResponse}
    {record : IdempotencyRecord Hash}
    {stored : Response}
    {ambient : Ambient}
    (sameDigest : intake.digest = self.digest)
    (bound : KeysBound self.digest issued db)
    (built :
      (Call.persistReservationCommand payload reply).IntakeBuilt intake
        issued)
    (found :
      db.idempotencyRecords.find?
        (payload.actor, .hold, payload.idempotencyKey) = some record)
    (sameHash : record.requestHash = self.digest payload.request)
    (isStored : record.response = some stored)
    (different :
      ¬ (stored.holdId? = some payload.holdId ∧
        stored.orderId = payload.orderId)) :
    self.body (.persistReservationCommand payload reply) ambient db =
      .error (fail .reservationCommandMismatch) := by
  have honest : self.digest payload.request = payload.requestHash := by
    rw [← sameDigest]
    exact built.honest
  cases command : db.reservationCommands.find? payload.commandId with
  | none =>
      rw [PostgresReservations.body,
        persist_of_find? honest command found isStored, if_pos sameHash,
        if_neg different, error_bind]
  | some row =>
      obtain ⟨_, rowIds, ownRecord, ownFound, _, ownStored⟩ :=
        bound.commanded command
      rw [← built.key_eq, found] at ownFound
      cases ownFound
      rw [isStored] at ownStored
      cases ownStored
      obtain ⟨holdId, orderId⟩ := built.ids_eq
      refine (different ⟨?_, ?_⟩).elim
      · rw [holdId]
        exact congrArg Prod.fst rowIds
      · rw [orderId]
        exact congrArg (fun ids => ids.2.1) rowIds

end Mismatches

/-! ## Runs -/

/-- A call, what its caller received, and how many rows it created. -/
structure Accounted (Hash : Type) extends Answered Hash where
  newHolds : Nat
  newOrders : Nat

/-- The holds that a call under the given key created. -/
def Accounted.holdsUnder
    (key : RecordKey)
    (label : Accounted Hash) : Nat :=
  if label.call.recordKey? = some key then label.newHolds else 0

def Accounted.ordersUnder
    (key : RecordKey)
    (label : Accounted Hash) : Nat :=
  if label.call.recordKey? = some key then label.newOrders else 0

/-- One if the key is recorded, else zero. -/
def recordCount (key : RecordKey) (db : Database Hash) : Nat :=
  if (db.idempotencyRecords.find? key).isSome then 1 else 0

/-- The invariant of a run and the records of all its calls so far. -/
structure KeysKept
    (digest : Request → Hash)
    (issued : Uuid → NewCommand)
    (past : List (Accounted Hash))
    (db : Database Hash) : Prop where
  bound : KeysBound digest issued db
  recorded : ∀ label ∈ past, Recorded digest label.toAnswered db

theorem Database.Initial.keysKept
    {db : Database Hash}
    (digest : Request → Hash)
    (issued : Uuid → NewCommand)
    (initial : db.Initial) :
    KeysKept digest issued [] db := by
  refine ⟨⟨?_, ?_⟩, by simp⟩
  · intro key record found
    rw [initial.fresh] at found
    cases found
  · intro id row found
    rw [initial.fresh] at found
    cases found

section Runs

variable [DecidableEq Hash]

/-- One transaction of a store whose commands come from the intake. -/
def PostgresReservations.AccountedStep
    (self : PostgresReservations Hash)
    (intake : RedisReservationIntake Hash)
    (issued : Uuid → NewCommand)
    (db : Database Hash)
    (label : Accounted Hash)
    (after : Database Hash) : Prop :=
  self.AnsweredStep db label.toAnswered after ∧
    label.call.IntakeBuilt intake issued ∧
    label.newHolds = (Table.newRows db.holds after.holds).length ∧
    label.newOrders = (Table.newRows db.orders after.orders).length

variable
  {self : PostgresReservations Hash}
  {intake : RedisReservationIntake Hash}
  {issued : Uuid → NewCommand}
  {db after : Database Hash}

/-- Execute calls in order and account for their answers. -/
def PostgresReservations.accounts
    (self : PostgresReservations Hash)
    (db : Database Hash) :
    List (Invocation Hash) → List (Accounted Hash)
  | [] => []
  | invocation :: rest =>
      let (answer, after) :=
        self.transaction invocation.call invocation.ambient db
      { call := invocation.call
        ambient := invocation.ambient
        answer := answer
        newHolds := (Table.newRows db.holds after.holds).length
        newOrders := (Table.newRows db.orders after.orders).length } ::
        self.accounts after rest

theorem PostgresReservations.run_accounts
    (self : PostgresReservations Hash)
    (intake : RedisReservationIntake Hash)
    (issued : Uuid → NewCommand)
    (db : Database Hash)
    (invocations : List (Invocation Hash))
    (built :
      ∀ invocation ∈ invocations,
        invocation.call.IntakeBuilt intake issued) :
    Run (self.AccountedStep intake issued) db
      (self.accounts db invocations) (self.replay db invocations) := by
  induction invocations generalizing db with
  | nil =>
      exact .nil db
  | cons invocation rest inductionHypothesis =>
      refine .cons ⟨rfl, built invocation (by simp), rfl, rfl⟩ ?_
      exact inductionHypothesis _ fun other member =>
        built other (List.mem_cons_of_mem _ member)

/-- A call fails, returns under its key, or has no key. -/
theorem PostgresReservations.AnsweredStep.cases
    {label : Answered Hash}
    (responded : Responded db)
    (step : self.AnsweredStep db label after) :
    ((∃ error, label.answer = .error error) ∧ after = db) ∨
    (∃ key response,
      label.call.recordKey? = some key ∧
        label.answer = .ok (.response response) ∧
        Answers self label.call label.ambient response db after) ∨
    (label.call.recordKey? = none ∧ Untouched db after) := by
  cases answer : label.answer with
  | error error =>
      rw [AnsweredStep, answer] at step
      exact Or.inl ⟨⟨error, rfl⟩, unchanged_of_transaction step⟩
  | ok result =>
      have accepted := step.body_eq answer
      cases keyed : label.call.recordKey? with
      | none =>
          exact Or.inr (Or.inr ⟨rfl, untouched_of_body keyed accepted⟩)
      | some key =>
          obtain ⟨response, rfl, answers⟩ :=
            answers_of_body responded keyed accepted
          exact Or.inr (Or.inl ⟨key, response, rfl, rfl, answers⟩)

/-- What one transaction keeps of the records. -/
theorem KeysBound.step
    {label : Accounted Hash}
    (bound : KeysBound self.digest issued db)
    (step : self.AccountedStep intake issued db label after) :
    KeysBound self.digest issued after ∧
      RecordsKept db after ∧
      Recorded self.digest label.toAnswered after := by
  obtain ⟨answered, built, _⟩ := step
  rcases answered.cases bound.responded with
    ⟨⟨error, isError⟩, rfl⟩ |
    ⟨key, response, keyed, isAnswer, answers⟩ |
    ⟨unkeyed, same⟩
  · refine ⟨bound, fun found => found, ?_⟩
    intro key response _ isAnswer
    rw [isError] at isAnswer
    cases isAnswer
  · exact ⟨answers.keysBound bound built, answers.recordsKept,
      answers.recorded bound built isAnswer⟩
  · refine ⟨⟨?_, ?_⟩, ?_, ?_⟩
    · intro key record
      rw [same.records]
      exact bound.responded
    · intro id row
      rw [same.commands, same.records]
      exact bound.commanded
    · intro key record
      rw [same.records]
      exact fun found => found
    · intro key response keyed
      rw [unkeyed] at keyed
      cases keyed

/-- A key pays for the rows that its calls create. -/
theorem KeysBound.paid
    {label : Accounted Hash}
    (bound : KeysBound self.digest issued db)
    (step : self.AccountedStep intake issued db label after)
    (key : RecordKey) :
    recordCount key db + label.holdsUnder key ≤ recordCount key after ∧
      recordCount key db + label.ordersUnder key ≤
        recordCount key after := by
  obtain ⟨_, kept, _⟩ := bound.step step
  have grows : recordCount key db ≤ recordCount key after := by
    unfold recordCount
    cases found : db.idempotencyRecords.find? key with
    | none => simp
    | some record => simp [kept found]
  unfold Accounted.holdsUnder Accounted.ordersUnder
  by_cases keyed : label.call.recordKey? = some key
  · rw [if_pos keyed, if_pos keyed]
    obtain ⟨answered, built, newHolds, newOrders⟩ := step
    rw [newHolds, newOrders]
    have unchanged
        (holds : after.holds = db.holds)
        (orders : after.orders = db.orders) :
        recordCount key db +
              (Table.newRows db.holds after.holds).length ≤
            recordCount key after ∧
          recordCount key db +
              (Table.newRows db.orders after.orders).length ≤
            recordCount key after := by
      rw [holds, orders]
      simpa using grows
    have created
        {request : Request}
        {response : Response}
        {now : Int}
        {hold : Hold}
        {order : Order}
        {rows : List EventSeat}
        {seats : List SeatId}
        {announcement : Uuid}
        (claimed : Claimed self.digest key request response db after)
        (placed :
          Placed now hold order rows seats announcement db after) :
        recordCount key db +
              (Table.newRows db.holds after.holds).length ≤
            recordCount key after ∧
          recordCount key db +
              (Table.newRows db.orders after.orders).length ≤
            recordCount key after := by
      have before : recordCount key db = 0 := by
        simp [recordCount, claimed.unused]
      have later : recordCount key after = 1 := by
        simp [recordCount, claimed.records]
      have holds := Table.length_newRows_le_one placed.holds
      have orders := Table.length_newRows_le_one placed.orders
      omega
    rcases answered.cases bound.responded with
      ⟨_, rfl⟩ | ⟨ownKey, response, ownKeyed, _, answers⟩ | ⟨unkeyed, _⟩
    · exact unchanged rfl rfl
    · rw [keyed] at ownKeyed
      cases ownKeyed
      cases answers with
      | replayed _ _ _ _ _ _ _ _ _ same =>
          exact unchanged (by rw [same]) (by rw [same])
      | recalled _ _ _ _ _ _ _ _ same =>
          exact unchanged (by rw [same]) (by rw [same])
      | claimed claimedKey request claimedKeyed _ claimed _ holds =>
          rw [keyed] at claimedKeyed
          cases claimedKeyed
          rcases holds with ⟨sameHolds, sameOrders, _⟩ |
            ⟨_, _, _, _, _, _, _, _, _, placed⟩
          · exact unchanged sameHolds sameOrders
          · exact created claimed placed
      | persisted payload reply _ _ _ _ called _ claimed _ _ _ placed =>
          rw [called] at keyed
          cases keyed
          exact created claimed placed
    · rw [unkeyed] at keyed
      cases keyed
  · rw [if_neg keyed, if_neg keyed]
    exact ⟨grows, grows⟩

theorem KeysKept.step
    {past : List (Accounted Hash)}
    {label : Accounted Hash}
    (kept : KeysKept self.digest issued past db)
    (step : self.AccountedStep intake issued db label after) :
    KeysKept self.digest issued (past ++ [label]) after := by
  obtain ⟨bound, recordsKept, recorded⟩ := kept.bound.step step
  refine ⟨bound, ?_⟩
  intro other member
  rcases List.mem_append.mp member with old | isNew
  · exact (kept.recorded other old).later recordsKept
  · rw [List.mem_singleton.mp isNew]
    exact recorded

/--
Over every run: no committed record lacks its response; calls that return under
one key carry the same canonical request and return the same identifiers; the
calls of one key create at most one hold and one order; and a call of another
request, or a command with other identifiers, fails and changes nothing.
-/
theorem idempotency_keys
    {start : Database Hash}
    {trace : List (Accounted Hash)}
    (injective : Function.Injective self.digest)
    (sameDigest : intake.digest = self.digest)
    (initial : start.Initial)
    (run : Run (self.AccountedStep intake issued) start trace db) :
    (∀ record ∈ db.idempotencyRecords, record.response ≠ none) ∧
    (∀ first ∈ trace, ∀ second ∈ trace,
      ∀ key firstResponse secondResponse,
        first.call.recordKey? = some key →
        second.call.recordKey? = some key →
        first.answer = .ok (.response firstResponse) →
        second.answer = .ok (.response secondResponse) →
        first.call.request? = second.call.request? ∧
          firstResponse.ids = secondResponse.ids) ∧
    (∀ key,
      (trace.map (Accounted.holdsUnder key)).sum ≤ 1 ∧
        (trace.map (Accounted.ordersUnder key)).sum ≤ 1) ∧
    ∀ earlier ∈ trace, ∀ key earlierResponse label request after,
      earlier.call.recordKey? = some key →
      earlier.answer = .ok (.response earlierResponse) →
      self.AccountedStep intake issued db label after →
      label.call.recordKey? = some key →
      label.call.request? = some request →
      (earlier.call.request? ≠ some request →
        label.answer = .error (fail .idempotencyMismatch) ∧
          after = db) ∧
      (earlier.call.request? = some request →
        ∀ payload reply,
          label.call = .persistReservationCommand payload reply →
          ¬ (earlierResponse.holdId? = some payload.holdId ∧
            earlierResponse.orderId = payload.orderId) →
          label.answer = .error (fail .reservationCommandMismatch) ∧
            after = db) := by
  have kept : KeysKept self.digest issued trace db :=
    run.history (initial.keysKept self.digest issued) KeysKept.step
  refine ⟨?_, ?_, ?_, ?_⟩
  · intro record member
    exact kept.bound.responded (Table.find?_key member)
  · intro first firstMember second secondMember key firstResponse
      secondResponse firstKeyed secondKeyed firstAnswer secondAnswer
    obtain ⟨firstRequest, record, stored, firstAsked, found, firstHash,
      isStored, firstIds⟩ :=
      kept.recorded first firstMember _ _ firstKeyed firstAnswer
    obtain ⟨secondRequest, secondRecord, secondStored, secondAsked,
      secondFound, secondHash, secondIsStored, secondIds⟩ :=
      kept.recorded second secondMember _ _ secondKeyed secondAnswer
    rw [found] at secondFound
    cases secondFound
    rw [isStored] at secondIsStored
    cases secondIsStored
    refine ⟨?_, firstIds.symm.trans secondIds⟩
    rw [firstAsked, secondAsked,
      injective (firstHash.symm.trans secondHash)]
  · intro key
    have recordCount_le_one :
        ∀ state : Database Hash, recordCount key state ≤ 1 := by
      intro state
      unfold recordCount
      split <;> omega
    have holds :=
      run.totalCost_le (KeysBound self.digest issued)
        (Accounted.holdsUnder key)
        (initial.keysKept self.digest issued).bound
        (fun bound step => (bound.step step).1)
        (fun bound step => (bound.paid step key).1)
        (fun _ => recordCount_le_one _)
    have orders :=
      run.totalCost_le (KeysBound self.digest issued)
        (Accounted.ordersUnder key)
        (initial.keysKept self.digest issued).bound
        (fun bound step => (bound.step step).1)
        (fun bound step => (bound.paid step key).2)
        (fun _ => recordCount_le_one _)
    omega
  · intro earlier member key earlierResponse label request next keyed
      answered step labelKeyed asked
    obtain ⟨earlierRequest, record, stored, earlierAsked, found, sameHash,
      isStored, sameIds⟩ :=
      kept.recorded earlier member _ _ keyed answered
    obtain ⟨answeredStep, built, _⟩ := step
    constructor
    · intro different
      refine answeredStep.of_error
        (body_mismatch sameDigest kept.bound built labelKeyed asked found ?_)
      rw [sameHash]
      intro equal
      rw [earlierAsked, injective equal] at different
      exact different rfl
    · intro same payload reply isPersist differentIds
      rw [earlierAsked] at same
      cases same
      refine answeredStep.of_error ?_
      rw [isPersist] at built labelKeyed asked ⊢
      cases labelKeyed
      cases asked
      refine body_idsMismatch sameDigest kept.bound built found sameHash
        isStored ?_
      rintro ⟨holdId, orderId⟩
      refine differentIds ⟨?_, ?_⟩
      · rw [← holdId]
        exact congrArg Prod.fst sameIds.symm
      · rw [← orderId]
        exact congrArg (fun ids => ids.2.1) sameIds.symm

end Runs

/-! ## A retried reservation -/

/--
One key used by `reserve`, by a retry that names the seats in another order, and
by a Redis-first command.
-/
def smallRetries : List (Invocation Request) :=
  [⟨.reserve "alice" 1 ["A1", "A2"] "first", smallAmbient 1 100⟩,
    ⟨.reserve "alice" 1 ["A2", "A1"] "first", smallAmbient 2 200⟩,
    ⟨.persistReservationCommand (smallIntake.payload smallCommand)
        (smallIntake.response smallCommand 1 1000 "THB"),
      smallAmbient 3 300⟩]

/-- The three calls leave one hold and one order. -/
theorem idempotency_keys_smallRetries :
    ((smallStore.accounts smallSale smallRetries).map
        (Accounted.holdsUnder ("alice", .hold, "first"))).sum ≤ 1 ∧
      ((smallStore.accounts smallSale smallRetries).map
        (Accounted.ordersUnder ("alice", .hold, "first"))).sum ≤ 1 := by
  have built :
      ∀ invocation ∈ smallRetries,
        invocation.call.IntakeBuilt smallIntake fun _ => smallCommand := by
    simp only [smallRetries, List.mem_cons, List.not_mem_nil, or_false,
      forall_eq_or_imp, forall_eq]
    exact ⟨trivial, trivial, rfl, 1, 1000, "THB", rfl⟩
  exact (idempotency_keys Function.injective_id rfl smallSale_initial
    (smallStore.run_accounts smallIntake (fun _ => smallCommand) smallSale
      smallRetries built)).2.2.1 ("alice", .hold, "first")

example :
    (smallStore.accounts smallSale smallRetries).map
        (Accounted.holdsUnder ("alice", .hold, "first")) = [1, 0, 0] := by
  decide

end FlashTicketing
