import FlashTicketing.PooledTransactions
import FlashTicketing.PostgresRun
import FlashTicketing.Simulation

namespace FlashTicketing

open Raising

/-!
# The store over its driver

The calls of the store as transactions over the connection pool.  They refine
the store whose transactions are atomic: a call that raises a fault of the
driver did the whole of its transaction or nothing.
-/

/-! ## Calls of the store -/

variable {Data Hash Fate : Type} [DecidableEq Hash]

/--
A call, what happens below it, the statement of its body that the driver fails,
if any, and how a body that raises leaves things.
-/
structure DriverCall (Hash Fate : Type) extends Invocation Hash where
  attempts : Attempts Fate
  interrupted : Option Fault := none
  left : Session (Database Hash) := .aborted
  unfinished : left ≠ .idle

/-- A call with what its caller received. -/
structure DriverAnswered (Hash Fate : Type) extends DriverCall Hash Fate where
  answer : Except (Raised Error) Result

/-- The body of a call of the store. -/
def PostgresReservations.driverBody
    (self : PostgresReservations Hash)
    (call : DriverCall Hash Fate) : Body (Database Hash) Error Result where
  run := fun db =>
    match call.interrupted, self.body call.call call.ambient db with
    | some fault, _ => (.error (.fault fault), call.left)
    | none, .ok (result, after) => (.ok result, .opened after)
    | none, .error error => (.error (.body error), call.left)
  unfinished := by
    intro db
    split
    · exact call.unfinished
    · simp
    · exact call.unfinished

/-- A call over the driver. -/
def DriverStep
    (postgres : Postgres (Database Hash) Error Fate)
    (self : PostgresReservations Hash)
    (client : Client (Database Hash))
    (label : DriverAnswered Hash Fate)
    (after : Client (Database Hash)) : Prop :=
  postgres.transaction label.attempts (self.driverBody label.toDriverCall)
    client = (label.answer, after)

/-- What a call over the driver is for the store. -/
inductive DriverAnswered.Stands :
    DriverAnswered Hash Fate → List (Answered Hash) → Prop where
  | answered
      {call : DriverCall Hash Fate}
      {result : Result} :
      Stands ⟨call, .ok result⟩ [⟨call.call, call.ambient, .ok result⟩]
  | failed
      {call : DriverCall Hash Fate}
      {error : Error} :
      Stands ⟨call, .error (.body error)⟩
        [⟨call.call, call.ambient, .error error⟩]
  | nothing
      {call : DriverCall Hash Fate}
      {fault : Fault} :
      Stands ⟨call, .error (.fault fault)⟩ []
  | unanswered
      {call : DriverCall Hash Fate}
      {fault : Fault}
      {result : Result} :
      Stands ⟨call, .error (.fault fault)⟩
        [⟨call.call, call.ambient, .ok result⟩]

section Calls

variable
  {postgres : Postgres (Database Hash) Error Fate}
  {self : PostgresReservations Hash}
  {client after : Client (Database Hash)}
  {label : DriverAnswered Hash Fate}

/-- A body that returned has not aborted its transaction. -/
theorem driverBody_ok
    {call : DriverCall Hash Fate}
    {db : Database Hash}
    {result : Result}
    {session : Session (Database Hash)}
    (ran : (self.driverBody call).run db = (.ok result, session)) :
    ∃ data,
      session = .opened data ∧
        self.transaction call.call call.ambient db = (.ok result, data) := by
  simp only [PostgresReservations.driverBody] at ran
  rw [PostgresReservations.transaction]
  split at ran
  · cases ran
  · rename_i _ accepted
    cases ran
    exact ⟨_, rfl, by rw [accepted]⟩
  · cases ran

theorem driverBody_error
    {call : DriverCall Hash Fate}
    {db : Database Hash}
    {error : Error}
    (ran : ((self.driverBody call).run db).1 = .error (.body error)) :
    self.transaction call.call call.ambient db = (.error error, db) := by
  simp only [PostgresReservations.driverBody] at ran
  rw [PostgresReservations.transaction]
  split at ran
  · cases ran
  · cases ran
  · rename_i _ refused
    cases ran
    rw [refused]

section Lawful

variable (lawful : postgres.driver.Lawful)

include lawful

/-- A call over the driver is at most one transaction of the store. -/
theorem DriverStep.simulated
    (ready : Postgres.Ready client.toServer)
    (step : DriverStep postgres self client label after) :
    ∃ actions,
      label.Stands actions ∧
        Transition.Run self.AnsweredStep client.data actions after.data := by
  obtain ⟨call, answer⟩ := label
  have meets :=
    @Postgres.meets_transaction _ _ _ _ client call.attempts
      (self.driverBody call) postgres lawful ready
  cases answer with
  | ok result =>
      obtain ⟨_, effect, _⟩ := meets.returns rfl step
      refine ⟨_, .answered, .single ?_⟩
      rcases effect with ran | ⟨ran, _⟩
      · obtain ⟨data, isData, answered⟩ := driverBody_ok ran
        cases isData
        exact answered
      · obtain ⟨data, isData, _⟩ := driverBody_ok ran
        cases isData
  | error raised =>
      obtain ⟨_, cause, _⟩ := meets.raises rfl step
      generalize after.data = data at cause ⊢
      cases cause with
      | body failed =>
          cases raised with
          | body error =>
              exact ⟨_, .failed, .single (driverBody_error failed)⟩
          | fault fault => exact ⟨_, .nothing, .nil _⟩
      | nothing => exact ⟨_, .nothing, .nil _⟩
      | committed effect =>
          obtain ⟨final, isFinal, answered⟩ := driverBody_ok effect
          cases isFinal
          exact ⟨_, .unanswered, .single answered⟩

/-- What a call does to the pool and to the error count. -/
theorem DriverStep.settled
    (ready : Postgres.Ready client.toServer)
    (step : DriverStep postgres self client label after) :
    Postgres.Settled postgres.driver client label.attempts after ∧
      after.errors.length ≤
        client.errors.length + (if label.answer.isOk then 0 else 1) := by
  have meets :=
    @Postgres.meets_transaction _ _ _ _ client label.attempts
      (self.driverBody label.toDriverCall) postgres lawful ready
  cases answer : label.answer with
  | ok result =>
      rw [DriverStep, answer] at step
      obtain ⟨settled, _, errors⟩ := meets.returns rfl step
      exact ⟨settled, by simp [errors, Except.isOk, Except.toBool]⟩
  | error raised =>
      rw [DriverStep, answer] at step
      obtain ⟨settled, _, counted⟩ := meets.raises rfl step
      refine ⟨settled, ?_⟩
      rcases counted with same | ⟨counter, isCounted⟩
      · simp [same]
      · simp [isCounted, Except.isOk, Except.toBool]

end Lawful

/--
The pool after some calls.  A connection is missing only if a sample after its
checkout or its return failed.
-/
structure PoolKept
    (driver : Driver (Database Hash) Fate)
    (client : Client (Database Hash))
    (labels : List (DriverAnswered Hash Fate))
    (after : Client (Database Hash)) : Prop where
  ready : Postgres.Ready after.toServer
  acquiring : after.acquiring = client.acquiring
  errors :
    after.errors.length ≤
      client.errors.length +
        (labels.filter fun label => !label.answer.isOk).length
  complete :
    (∀ label ∈ labels, label.attempts.Returns driver) →
    after.available.Perm client.available ∧ after.inUse = client.inUse

theorem PoolKept.step
    {start : Client (Database Hash)}
    {labels : List (DriverAnswered Hash Fate)}
    (kept : PoolKept postgres.driver start labels client)
    (lawful : postgres.driver.Lawful)
    (step : DriverStep postgres self client label after) :
    PoolKept postgres.driver start (labels ++ [label]) after := by
  obtain ⟨settled, counted⟩ := step.settled lawful kept.ready
  refine ⟨settled.ready, settled.acquiring.trans kept.acquiring, ?_, ?_⟩
  · have last :
        ([label].filter fun label => !label.answer.isOk).length =
          if label.answer.isOk then 0 else 1 := by
      cases isOk : label.answer.isOk with
      | true => simp [isOk]
      | false => simp [isOk]
    have errors := kept.errors
    rw [List.filter_append, List.length_append, last]
    omega
  · intro clean
    obtain ⟨available, inUse⟩ := kept.complete fun other member =>
      clean other (List.mem_append_left _ member)
    obtain ⟨same, sameUse⟩ := settled.complete (clean label (by simp))
    exact ⟨same.trans available, sameUse.trans inUse⟩

end Calls

/-! ## Calls that go wrong -/

/-- What happens below a call of a small driver. -/
inductive SmallFate where
  | fine
  /-- The call raises, and its transaction is aborted or its connection lost. -/
  | fails (fault : Fault) (lost : Bool)
  /-- The server commits, and its answer is lost. -/
  | unanswered (fault : Fault)
  deriving Repr, DecidableEq

/-- The exception of a call, if it raises. -/
def SmallFate.fault : SmallFate → Option Fault
  | .fine => none
  | .fails fault _ => some fault
  | .unanswered fault => some fault

end FlashTicketing
