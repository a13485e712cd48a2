import FlashTicketing.PostgresEffects
import FlashTicketing.Transition

namespace FlashTicketing

open Relational Checked Transition

/-!
# Runs of the store

A run executes calls one after another, each in its own transaction with its
own clock reading and identifiers.  A call that fails leaves the database as
it was.  Properties kept by every `Change` are kept by every run.
-/

variable {Hash : Type} [DecidableEq Hash]

/-- One call with what its transaction reads from outside the database. -/
structure Invocation (Hash : Type) where
  call : Call Hash
  ambient : Ambient

namespace PostgresReservations

variable (self : PostgresReservations Hash)

/-- One transaction of the store, committed or rolled back. -/
def Step
    (db : Database Hash)
    (invocation : Invocation Hash)
    (after : Database Hash) : Prop :=
  (self.transaction invocation.call invocation.ambient db).2 = after

/-- Execute calls in order. -/
def replay
    (db : Database Hash) :
    List (Invocation Hash) → Database Hash
  | [] => db
  | invocation :: rest =>
      replay
        (self.transaction invocation.call invocation.ambient db).2 rest

theorem run_replay
    (db : Database Hash)
    (invocations : List (Invocation Hash)) :
    Run self.Step db invocations (self.replay db invocations) := by
  induction invocations generalizing db with
  | nil =>
      exact .nil db
  | cons invocation rest inductionHypothesis =>
      exact .cons rfl (inductionHypothesis _)

variable {self}

theorem changes_of_step
    {db after : Database Hash}
    {invocation : Invocation Hash}
    (step : self.Step db invocation after) :
    Changes invocation.ambient.now db after := by
  rw [← step]
  exact changes_of_transaction self invocation.call
    invocation.ambient db

end PostgresReservations

/-- A property kept by every change is kept by a sequence of them. -/
theorem Changes.invariant
    {Hash : Type}
    {property : Database Hash → Prop}
    {now : Int}
    {db after : Database Hash}
    (changes : Changes now db after)
    (preserved :
      ∀ {db after},
        property db →
        Change now db after →
        property after)
    (holds : property db) :
    property after := by
  induction changes with
  | refl =>
      exact holds
  | tail _ change inductionHypothesis =>
      exact preserved inductionHypothesis change

/--
A reflexive, transitive relation that holds across every change from a state
with the property holds across a sequence of them.
-/
theorem Changes.relates
    {Hash : Type}
    (property : Database Hash → Prop)
    {relation : Database Hash → Database Hash → Prop}
    {now : Int}
    {db after : Database Hash}
    (changes : Changes now db after)
    (preserved :
      ∀ {now db after},
        property db →
        Change now db after →
        property after)
    (reflexive : ∀ db, relation db db)
    (transitive :
      ∀ {first second third},
        relation first second →
        relation second third →
        relation first third)
    (related :
      ∀ {now db after},
        property db →
        Change now db after →
        relation db after)
    (holds : property db) :
    relation db after := by
  induction changes using Relation.ReflTransGen.head_induction_on with
  | refl =>
      exact reflexive after
  | head change _ inductionHypothesis =>
      exact transitive (related holds change)
        (inductionHypothesis (preserved holds change))

/-! ## The outbox only grows -/

/-- No outbox row is removed or rewritten. -/
def OutboxKept {Hash : Type} (db after : Database Hash) : Prop :=
  ∀ row, row ∈ db.outboxEvents → row ∈ after.outboxEvents

theorem Announces.outboxKept
    {Hash : Type}
    {added : List OutboxEvent}
    {db after : Database Hash}
    (announces : Announces added db after) :
    OutboxKept db after :=
  fun row member => (announces.rows row).mpr (Or.inl member)

theorem Change.outboxKept
    {Hash : Type}
    {now : Int}
    {db after : Database Hash}
    (change : Change now db after) :
    OutboxKept db after := by
  cases change with
  | placed _ _ _ _ _ placed => exact placed.announces.outboxKept
  | bookkeeping | released | paymentOpened | booked | refunded | failed
  | noted | fulfilled | refundCompleted =>
      apply Announces.outboxKept
      assumption

theorem Changes.outboxKept
    {Hash : Type}
    {now : Int}
    {db after : Database Hash}
    (changes : Changes now db after) :
    OutboxKept db after :=
  Changes.relates (fun _ => True) changes (fun _ _ => trivial)
    (fun _ _ member => member)
    (fun early late row member => late row (early row member))
    (fun _ change => change.outboxKept) trivial

namespace PostgresReservations

variable {self : PostgresReservations Hash}

/-- A property kept by every change is kept by every transaction. -/
theorem step_invariant
    {property : Database Hash → Prop}
    (preserved :
      ∀ {now db after},
        property db →
        Change now db after →
        property after)
    {db after : Database Hash}
    {invocation : Invocation Hash}
    (holds : property db)
    (step : self.Step db invocation after) :
    property after :=
  Changes.invariant (changes_of_step step) preserved holds

/-- A property kept by every change is kept by every run. -/
theorem run_invariant
    {property : Database Hash → Prop}
    (preserved :
      ∀ {now db after},
        property db →
        Change now db after →
        property after)
    {db after : Database Hash}
    {invocations : List (Invocation Hash)}
    (run : Run self.Step db invocations after)
    (holds : property db) :
    property after := by
  refine run.invariant holds ?_
  intro before invocation next beforeHolds step
  exact step_invariant preserved beforeHolds step

/--
A reflexive, transitive relation that holds across every change from a state
with the property holds across every run from such a state.
-/
theorem run_relates
    (property : Database Hash → Prop)
    {relation : Database Hash → Database Hash → Prop}
    (preserved :
      ∀ {now db after},
        property db →
        Change now db after →
        property after)
    (reflexive : ∀ db, relation db db)
    (transitive :
      ∀ {first second third},
        relation first second →
        relation second third →
        relation first third)
    (related :
      ∀ {now db after},
        property db →
        Change now db after →
        relation db after)
    {db after : Database Hash}
    {invocations : List (Invocation Hash)}
    (run : Run self.Step db invocations after)
    (holds : property db) :
    relation db after := by
  refine run.relates property holds ?_ reflexive transitive ?_
  · intro before invocation next beforeHolds step
    exact step_invariant preserved beforeHolds step
  · intro before invocation next beforeHolds step
    exact Changes.relates property (changes_of_step step) preserved
      reflexive transitive related beforeHolds

end PostgresReservations

/-! ## Runs with their answers -/

/-- A call together with what its caller received. -/
structure Answered (Hash : Type) where
  call : Call Hash
  ambient : Ambient
  answer : Except Error Result

namespace PostgresReservations

/-- One transaction of the store, with the answer it gave. -/
def AnsweredStep
    (self : PostgresReservations Hash)
    (db : Database Hash)
    (label : Answered Hash)
    (after : Database Hash) : Prop :=
  self.transaction label.call label.ambient db = (label.answer, after)

variable {self : PostgresReservations Hash}

theorem AnsweredStep.step
    {db after : Database Hash}
    {label : Answered Hash}
    (step : self.AnsweredStep db label after) :
    self.Step db ⟨label.call, label.ambient⟩ after := by
  rw [Step, step]

/-- A call that returns has committed its body. -/
theorem body_of_transaction
    {call : Call Hash}
    {ambient : Ambient}
    {result : Result}
    {db after : Database Hash}
    (answered : self.transaction call ambient db = (.ok result, after)) :
    self.body call ambient db = .ok (result, after) := by
  rw [transaction] at answered
  split at answered
  · rename_i accepted
    cases answered
    exact accepted
  · cases answered

/-- A call that raises is rolled back. -/
theorem unchanged_of_transaction
    {call : Call Hash}
    {ambient : Ambient}
    {error : Error}
    {db after : Database Hash}
    (answered : self.transaction call ambient db = (.error error, after)) :
    after = db := by
  rw [transaction] at answered
  split at answered
  · cases answered
  · cases answered
    rfl

/-- A step is rolled back, or its body was accepted. -/
theorem Step.committed
    {db after : Database Hash}
    {invocation : Invocation Hash}
    (step : self.Step db invocation after) :
    after = db ∨
      ∃ result,
        self.body invocation.call invocation.ambient db =
          .ok (result, after) := by
  cases answered :
      self.transaction invocation.call invocation.ambient db with
  | mk answer next =>
      rw [Step, answered] at step
      subst step
      cases answer with
      | error error => exact Or.inl (unchanged_of_transaction answered)
      | ok result => exact Or.inr ⟨result, body_of_transaction answered⟩

theorem AnsweredStep.body_eq
    {db after : Database Hash}
    {label : Answered Hash}
    {result : Result}
    (step : self.AnsweredStep db label after)
    (answered : label.answer = .ok result) :
    self.body label.call label.ambient db = .ok (result, after) := by
  rw [AnsweredStep, answered] at step
  exact body_of_transaction step

/-- A body that raises is rolled back. -/
theorem AnsweredStep.of_error
    {db after : Database Hash}
    {label : Answered Hash}
    {error : Error}
    (step : self.AnsweredStep db label after)
    (raised : self.body label.call label.ambient db = .error error) :
    label.answer = .error error ∧ after = db := by
  rw [AnsweredStep, transaction, raised] at step
  exact ⟨(congrArg Prod.fst step).symm, (congrArg Prod.snd step).symm⟩

/-- Transactions only append to the outbox. -/
theorem AnsweredStep.outboxKept
    {db after : Database Hash}
    {label : Answered Hash}
    (step : self.AnsweredStep db label after) :
    OutboxKept db after :=
  (changes_of_step step.step).outboxKept

/-- Execute calls in order and record their answers. -/
def answers
    (self : PostgresReservations Hash)
    (db : Database Hash) :
    List (Invocation Hash) → List (Answered Hash)
  | [] => []
  | invocation :: rest =>
      let (answer, after) :=
        self.transaction invocation.call invocation.ambient db
      ⟨invocation.call, invocation.ambient, answer⟩ ::
        self.answers after rest

theorem run_answers
    (self : PostgresReservations Hash)
    (db : Database Hash)
    (invocations : List (Invocation Hash)) :
    Run self.AnsweredStep db (self.answers db invocations)
      (self.replay db invocations) := by
  induction invocations generalizing db with
  | nil =>
      exact .nil db
  | cons invocation rest inductionHypothesis =>
      exact .cons rfl (inductionHypothesis _)

end PostgresReservations

/-! ## A small sale -/

/-- A store whose digest is the request itself. -/
def smallStore : PostgresReservations Request where
  digest := id

/-- The row of a small event. -/
def smallEvent : Event where
  id := 1
  currency := "THB"
  saleStarts := 0
  saleEnds := 1000 * second

/-- One event on sale, with two free seats. -/
def smallSale : Database Request where
  events := ⟨[smallEvent], by decide⟩
  eventSeats :=
    ⟨[{ eventId := 1, seatId := "A1", price := 500 },
      { eventId := 1, seatId := "A2", price := 500 }], by decide⟩

theorem smallSale_initial : smallSale.Initial :=
  ⟨by simp [smallSale, Table.mem_def], rfl⟩

/-- Clock and identifiers of a transaction at a given second. -/
def smallAmbient (seconds : Nat) (firstId : Uuid) : Ambient where
  now := seconds * second
  insertedAt := seconds * second
  uuid4 := fun draw => firstId + draw

/-- Reserve one seat, open its payment and receive the payment's success. -/
def smallPurchase : List (Invocation Request) :=
  [⟨.reserve "alice" 1 ["A1"] "first", smallAmbient 1 100⟩,
    ⟨.initiatePayment "alice" 101 "pay" .succeeded 0 1,
      smallAmbient 2 200⟩,
    ⟨.callback {
        callbackId := 300
        paymentId := 200
        orderId := 101
        amount := 500
        currency := "THB"
        outcome := .succeeded },
      smallAmbient 3 400⟩]

/-- The payment of that purchase after its callback. -/
def smallPayment : PaymentAttempt where
  id := 200
  orderId := 101
  status := .succeeded
  outcome := .succeeded
  dueAt := 2 * second
  targetDeliveries := 1

end FlashTicketing
