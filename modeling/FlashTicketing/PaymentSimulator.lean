import FlashTicketing.PaymentWebhook

namespace FlashTicketing

open Relational Checked Transition

/-!
# The payment simulator

Simulators lease a due payment, post its signed callback to the webhook and
count the delivery once the webhook has answered.  A simulator can stop
anywhere, its request can arrive late or more than once, its lease can pass to
another simulator, and anybody can post what was seen on the wire.
-/

variable {Hash Signature : Type}

/-! ## State -/

/-- The columns of `payment_attempts` that only simulators write. -/
structure DispatchColumns where
  deliveries : Nat := 0
  leaseUntil : Option Int := none
  leaseToken : Option Uuid := none
  deriving Repr, DecidableEq

/-- The conditions on the row of `simulate_one`. -/
def DispatchColumns.Claimable
    (columns : DispatchColumns)
    (payment : PaymentAttempt)
    (now : Int) : Prop :=
  columns.deliveries < payment.targetDeliveries ∧
    payment.dueAt ≤ now ∧
    ∀ leaseUntil, columns.leaseUntil = some leaseUntil → leaseUntil < now

/-- `lease_until=clock_timestamp()+interval '15 seconds', lease_token=...`. -/
def DispatchColumns.lease
    (columns : DispatchColumns)
    (token : Uuid)
    (now : Int) : DispatchColumns :=
  { columns with
    leaseUntil := some (addSeconds now 15)
    leaseToken := some token }

/-- `deliveries=deliveries+1, lease_until=NULL WHERE ... AND lease_token=...`. -/
def DispatchColumns.record
    (columns : DispatchColumns)
    (token : Uuid) : DispatchColumns :=
  if columns.leaseToken = some token then
    { columns with
      deliveries := columns.deliveries + 1
      leaseUntil := none }
  else
    columns

/-- A call of `simulate_one` that has claimed a payment. -/
inductive Simulator where
  /-- The row is leased, nothing is sent. -/
  | claimed (token : Uuid) (payment : PaymentAttempt) (order : Order)
  /-- In `urlopen`. -/
  | waiting (token id : Uuid) (send : Nat)
  /-- The webhook has answered. -/
  | answered (token id : Uuid)

namespace Simulator

def token : Simulator → Uuid
  | .claimed token _ _ | .waiting token _ _ | .answered token _ => token

def paymentId : Simulator → Uuid
  | .claimed _ payment _ => payment.id
  | .waiting _ id _ | .answered _ id => id

end Simulator

/-- A request on the wire, and whether the webhook has answered it. -/
structure Posted (Signature : Type) where
  request : WebhookRequest Signature
  answered : Bool := false

structure SimulatorWorld (Hash Signature : Type) where
  db : Database Hash
  columns : Uuid → DispatchColumns := fun _ => {}
  /-- The tokens that were drawn. -/
  tokens : List Uuid := []
  simulators : Nat → Option Simulator := fun _ => none
  sends : List (Posted Signature) := []

namespace SimulatorWorld

/-- A transaction is committed; the columns of new payments have defaults. -/
def commit
    (world : SimulatorWorld Hash Signature)
    (after : Database Hash) : SimulatorWorld Hash Signature :=
  { world with
    db := after
    columns := fun id =>
      if world.db.paymentAttempts.find? id = none then
        {}
      else
        world.columns id }

def setColumns
    (world : SimulatorWorld Hash Signature)
    (id : Uuid)
    (columns : DispatchColumns) : SimulatorWorld Hash Signature :=
  { world with columns := Function.update world.columns id columns }

def setSimulator
    (world : SimulatorWorld Hash Signature)
    (slot : Nat)
    (simulator : Option Simulator) : SimulatorWorld Hash Signature :=
  { world with
    simulators := Function.update world.simulators slot simulator }

def setSends
    (world : SimulatorWorld Hash Signature)
    (sends : List (Posted Signature)) : SimulatorWorld Hash Signature :=
  { world with sends := sends }

/-- The row that `simulate_one` selects, past rows that others have locked. -/
structure Claims
    (world : SimulatorWorld Hash Signature)
    (now : Int)
    (locked : List Uuid)
    (payment : PaymentAttempt)
    (order : Order) : Prop where
  found : world.db.paymentAttempts.find? payment.id = some payment
  joined : world.db.orders.find? payment.orderId = some order
  claimable : (world.columns payment.id).Claimable payment now
  unlocked : payment.id ∉ locked
  first :
    ∀ other,
      world.db.paymentAttempts.find? other.id = some other →
      (world.db.orders.find? other.orderId).isSome = true →
      (world.columns other.id).Claimable other now →
      other.id ∉ locked →
      payment.dueAt ≤ other.dueAt

/--
Without the secret nobody has a signature of a text that was not signed by a
simulator.
-/
def Unforged
    (webhook : Webhook Signature)
    (world : SimulatorWorld Hash Signature)
    (request : WebhookRequest Signature) : Prop :=
  webhook.Verifies request →
    ∃ posted ∈ world.sends,
      signedText posted.request.timestamp posted.request.raw =
        signedText request.timestamp request.raw

end SimulatorWorld

/-! ## Steps -/

section Steps

variable [DecidableEq Hash] [DecidableEq Signature]

/-- The webhook's answer to a request, and the store after it. -/
def handleCallback
    (self : PostgresReservations Hash)
    (webhook : Webhook Signature)
    (request : WebhookRequest Signature)
    (time : Int)
    (ambient : Ambient)
    (db : Database Hash) :
    Except WebhookRefusal (Except Error Result) × Database Hash :=
  match webhook.check request time with
  | .error refusal => (.error refusal, db)
  | .ok payload =>
      ((.ok (self.transaction (.callback payload) ambient db).1),
        (self.transaction (.callback payload) ambient db).2)

/-- Whether the answer has a status that `urlopen` does not raise on. -/
def returned : Except WebhookRefusal (Except Error Result) → Bool
  | .ok (.ok _) => true
  | _ => false

end Steps

inductive SimulatorAction (Hash Signature : Type) where
  | transact (call : Call Hash) (ambient : Ambient)
  | claim (slot : Nat) (token : Uuid) (now : Int) (locked : List Uuid)
  | post (slot : Nat) (time : Int)
  | deliver (send : Nat) (time : Int) (ambient : Ambient)
  | inject
      (request : WebhookRequest Signature)
      (time : Int)
      (ambient : Ambient)
  | receive (slot : Nat)
  | record (slot : Nat)
  | fail (slot : Nat)

/-- One step. -/
inductive SimulatorWorld.Step
    [DecidableEq Hash]
    [DecidableEq Signature]
    (self : PostgresReservations Hash)
    (webhook : Webhook Signature)
    (world : SimulatorWorld Hash Signature) :
    SimulatorAction Hash Signature →
      SimulatorWorld Hash Signature → Prop where
  | transact
      {call : Call Hash}
      {ambient : Ambient}
      (other : call.isCallback = false) :
      Step self webhook world (.transact call ambient)
        (world.commit (self.transaction call ambient world.db).2)
  | claim
      {slot : Nat}
      {token : Uuid}
      {now : Int}
      {locked : List Uuid}
      {payment : PaymentAttempt}
      {order : Order}
      (idle : world.simulators slot = none)
      (fresh : token ∉ world.tokens)
      (claims : world.Claims now locked payment order) :
      Step self webhook world (.claim slot token now locked)
        (({ world with tokens := token :: world.tokens }.setColumns payment.id
            ((world.columns payment.id).lease token now)).setSimulator slot
          (some (.claimed token payment order)))
  | post
      {slot : Nat}
      {time : Int}
      {token : Uuid}
      {payment : PaymentAttempt}
      {order : Order}
      (working :
        world.simulators slot = some (.claimed token payment order)) :
      Step self webhook world (.post slot time)
        ((world.setSends
            (world.sends ++
              [{ request :=
                  webhook.sign (simulatedPayload payment order)
                    time }])).setSimulator slot
          (some (.waiting token payment.id world.sends.length)))
  -- A request arrives, whether or not its sender still waits for it.
  | deliver
      {send : Nat}
      {time : Int}
      {ambient : Ambient}
      {posted : Posted Signature}
      (found : world.sends[send]? = some posted) :
      Step self webhook world (.deliver send time ambient)
        ((world.commit
            (handleCallback self webhook posted.request time ambient
              world.db).2).setSends
          (world.sends.modify send fun posted =>
            { posted with
              answered :=
                posted.answered ||
                  returned
                    (handleCallback self webhook posted.request time
                      ambient world.db).1 }))
  -- Anybody else posts what can be posted without the secret.
  | inject
      {request : WebhookRequest Signature}
      {time : Int}
      {ambient : Ambient}
      (unforged : world.Unforged webhook request) :
      Step self webhook world (.inject request time ambient)
        (world.commit
          (handleCallback self webhook request time ambient world.db).2)
  | receive
      {slot send : Nat}
      {token id : Uuid}
      {posted : Posted Signature}
      (working : world.simulators slot = some (.waiting token id send))
      (found : world.sends[send]? = some posted)
      (answered : posted.answered = true) :
      Step self webhook world (.receive slot)
        (world.setSimulator slot (some (.answered token id)))
  | record
      {slot : Nat}
      {token id : Uuid}
      (working : world.simulators slot = some (.answered token id)) :
      Step self webhook world (.record slot)
        ((world.setColumns id ((world.columns id).record token)).setSimulator
          slot none)
  -- Any call of `simulate_one` can raise, time out or be killed.
  | fail
      {slot : Nat} :
      Step self webhook world (.fail slot) (world.setSimulator slot none)

/-! ## Fencing -/

/-- Tokens belong to one simulator each, and the current one may still count. -/
structure DispatchFenced (world : SimulatorWorld Hash Signature) : Prop where
  drawn :
    ∀ {slot simulator},
      world.simulators slot = some simulator →
      simulator.token ∈ world.tokens
  leased :
    ∀ {id token},
      (world.columns id).leaseToken = some token →
      token ∈ world.tokens
  sole :
    ∀ {first second one other},
      world.simulators first = some one →
      world.simulators second = some other →
      one.token = other.token →
      first = second
  unfinished :
    ∀ {slot simulator payment},
      world.simulators slot = some simulator →
      (world.columns simulator.paymentId).leaseToken = some simulator.token →
      world.db.paymentAttempts.find? simulator.paymentId = some payment →
      (world.columns simulator.paymentId).deliveries < payment.targetDeliveries
  bounded :
    ∀ {id payment},
      world.db.paymentAttempts.find? id = some payment →
      (world.columns id).deliveries ≤ payment.targetDeliveries

namespace DispatchFenced

variable {world : SimulatorWorld Hash Signature}

theorem commit
    {after : Database Hash}
    (fenced : DispatchFenced world)
    (kept : TermsKept world.db after) :
    DispatchFenced (world.commit after) := by
  -- A payment that was there has its target, a new one has defaults.
  have target {id : Uuid} {payment : PaymentAttempt}
      (found : after.paymentAttempts.find? id = some payment) :
      (world.commit after).columns id = {} ∨
        (world.commit after).columns id = world.columns id ∧
          ∃ old,
            world.db.paymentAttempts.find? id = some old ∧
              old.targetDeliveries = payment.targetDeliveries := by
    simp only [SimulatorWorld.commit]
    cases isOld : world.db.paymentAttempts.find? id with
    | none => exact Or.inl (if_pos rfl)
    | some old =>
        obtain ⟨status, foundAfter⟩ := kept.payments isOld
        rw [foundAfter] at found
        cases found
        exact Or.inr ⟨if_neg (by simp), old, rfl, rfl⟩
  refine ⟨fenced.drawn, ?_, fenced.sole, ?_, ?_⟩
  · intro id token isLeased
    simp only [SimulatorWorld.commit] at isLeased
    split at isLeased
    · cases isLeased
    · exact fenced.leased isLeased
  · intro slot simulator payment working isLeased found
    rcases target found with isNew | ⟨same, old, isOld, sameTarget⟩
    · rw [isNew] at isLeased
      cases isLeased
    · rw [same] at isLeased ⊢
      rw [← sameTarget]
      exact fenced.unfinished working isLeased isOld
  · intro id payment found
    rcases target found with isNew | ⟨same, old, isOld, sameTarget⟩
    · rw [isNew]
      exact Nat.zero_le _
    · rw [same, ← sameTarget]
      exact fenced.bounded isOld

theorem setSends
    (fenced : DispatchFenced world)
    (sends : List (Posted Signature)) :
    DispatchFenced (world.setSends sends) :=
  ⟨fenced.drawn, fenced.leased, fenced.sole, fenced.unfinished,
    fenced.bounded⟩

/-- A simulator stops. -/
theorem stop
    (fenced : DispatchFenced world)
    (slot : Nat) :
    DispatchFenced (world.setSimulator slot none) := by
  have earlier {other : Nat} {simulator : Simulator}
      (working :
        Function.update world.simulators slot none other = some simulator) :
      world.simulators other = some simulator := by
    by_cases same : other = slot
    · rw [same, Function.update_self] at working
      cases working
    · rwa [Function.update_of_ne same] at working
  exact ⟨fun working => fenced.drawn (earlier working), fenced.leased,
    fun firstWorking secondWorking =>
      fenced.sole (earlier firstWorking) (earlier secondWorking),
    fun working => fenced.unfinished (earlier working), fenced.bounded⟩

/-- A simulator goes on with its own token and payment. -/
theorem proceed
    {slot : Nat}
    {simulator next : Simulator}
    (fenced : DispatchFenced world)
    (working : world.simulators slot = some simulator)
    (sameToken : next.token = simulator.token)
    (samePayment : next.paymentId = simulator.paymentId) :
    DispatchFenced (world.setSimulator slot (some next)) := by
  have earlier {other : Nat} {found : Simulator}
      (isFound :
        Function.update world.simulators slot (some next) other =
          some found) :
      ∃ old,
        world.simulators other = some old ∧
          found.token = old.token ∧ found.paymentId = old.paymentId := by
    by_cases same : other = slot
    · rw [same, Function.update_self] at isFound
      cases isFound
      exact ⟨simulator, same ▸ working, sameToken, samePayment⟩
    · rw [Function.update_of_ne same] at isFound
      exact ⟨found, isFound, rfl, rfl⟩
  refine ⟨?_, fenced.leased, ?_, ?_, fenced.bounded⟩
  · intro other found isFound
    obtain ⟨old, isOld, isToken, _⟩ := earlier isFound
    rw [isToken]
    exact fenced.drawn isOld
  · intro first second one other isOne isOther same
    obtain ⟨oldOne, isOldOne, oneToken, _⟩ := earlier isOne
    obtain ⟨oldOther, isOldOther, otherToken, _⟩ := earlier isOther
    rw [oneToken, otherToken] at same
    exact fenced.sole isOldOne isOldOther same
  · intro other found payment isFound isLeased paymentFound
    obtain ⟨old, isOld, isToken, isPayment⟩ := earlier isFound
    rw [isToken, isPayment] at isLeased
    rw [isPayment] at paymentFound ⊢
    exact fenced.unfinished isOld isLeased paymentFound

/-- A fresh token fences the simulators before it. -/
theorem claim
    {slot : Nat}
    {token : Uuid}
    {now : Int}
    {locked : List Uuid}
    {payment : PaymentAttempt}
    {order : Order}
    (fenced : DispatchFenced world)
    (fresh : token ∉ world.tokens)
    (claims : world.Claims now locked payment order) :
    DispatchFenced
      (({ world with tokens := token :: world.tokens }.setColumns payment.id
          ((world.columns payment.id).lease token now)).setSimulator slot
        (some (.claimed token payment order))) := by
  have slots {other : Nat} {found : Simulator}
      (isFound :
        Function.update world.simulators slot
            (some (.claimed token payment order)) other =
          some found) :
      other = slot ∧ found = .claimed token payment order ∨
        other ≠ slot ∧ world.simulators other = some found := by
    by_cases same : other = slot
    · rw [same, Function.update_self] at isFound
      exact Or.inl ⟨same, (Option.some.inj isFound).symm⟩
    · rw [Function.update_of_ne same] at isFound
      exact Or.inr ⟨same, isFound⟩
  have columns (id : Uuid) :
      Function.update world.columns payment.id
          ((world.columns payment.id).lease token now) id =
        if id = payment.id then
          (world.columns id).lease token now
        else
          world.columns id := by
    by_cases same : id = payment.id
    · rw [same, Function.update_self, if_pos rfl]
    · rw [Function.update_of_ne same, if_neg same]
  refine ⟨?_, ?_, ?_, ?_, ?_⟩
  · intro other found isFound
    rcases slots isFound with ⟨_, rfl⟩ | ⟨_, isOld⟩
    · exact List.mem_cons_self
    · exact List.mem_cons_of_mem _ (fenced.drawn isOld)
  · intro id other isLeased
    simp only [SimulatorWorld.setSimulator, SimulatorWorld.setColumns,
      columns] at isLeased
    split at isLeased
    · cases isLeased
      exact List.mem_cons_self
    · exact List.mem_cons_of_mem _ (fenced.leased isLeased)
  · intro first second one other isOne isOther same
    rcases slots isOne with ⟨isSlot, rfl⟩ | ⟨_, isOldOne⟩ <;>
      rcases slots isOther with ⟨otherSlot, rfl⟩ | ⟨_, isOldOther⟩
    · rw [isSlot, otherSlot]
    · have isToken : token = other.token := same
      exact absurd (isToken ▸ fenced.drawn isOldOther) fresh
    · have isToken : one.token = token := same
      exact absurd (isToken ▸ fenced.drawn isOldOne) fresh
    · exact fenced.sole isOldOne isOldOther same
  · intro other found row isFound isLeased rowFound
    simp only [SimulatorWorld.setSimulator, SimulatorWorld.setColumns,
      columns] at isLeased ⊢
    rcases slots isFound with ⟨_, rfl⟩ | ⟨_, isOld⟩
    · have isRow : row = payment :=
        Option.some.inj (rowFound.symm.trans claims.found)
      have own : (Simulator.claimed token payment order).paymentId =
          payment.id := rfl
      rw [isRow, if_pos own]
      exact claims.claimable.1
    · split at isLeased
      · -- The token of the row is the new one, which is nobody else's.
        have isToken : token = found.token := Option.some.inj isLeased
        exact absurd (isToken ▸ fenced.drawn isOld) fresh
      · rename_i elsewhere
        rw [if_neg elsewhere]
        exact fenced.unfinished isOld isLeased rowFound
  · intro id row rowFound
    simp only [SimulatorWorld.setSimulator, SimulatorWorld.setColumns,
      columns]
    split <;> exact fenced.bounded rowFound

/-- Only the current token counts, and its simulator is done then. -/
theorem record
    {slot : Nat}
    {token id : Uuid}
    (fenced : DispatchFenced world)
    (working : world.simulators slot = some (.answered token id)) :
    DispatchFenced
      ((world.setColumns id ((world.columns id).record token)).setSimulator
        slot none) := by
  have stopped := fenced.stop slot
  have columns (other : Uuid) :
      Function.update world.columns id ((world.columns id).record token)
          other =
        if other = id ∧ (world.columns id).leaseToken = some token then
          { world.columns id with
            deliveries := (world.columns id).deliveries + 1
            leaseUntil := none }
        else
          world.columns other := by
    by_cases same : other = id
    · subst same
      simp only [Function.update_self, true_and, DispatchColumns.record]
    · rw [Function.update_of_ne same, if_neg (fun both => same both.1)]
  refine ⟨stopped.drawn, ?_, stopped.sole, ?_, ?_⟩
  · intro other leased isLeased
    simp only [SimulatorWorld.setSimulator, SimulatorWorld.setColumns,
      columns] at isLeased
    split at isLeased
    · exact fenced.leased isLeased
    · exact fenced.leased isLeased
  · intro other simulator payment isWorking isLeased found
    simp only [SimulatorWorld.setSimulator, SimulatorWorld.setColumns,
      columns] at isLeased ⊢
    by_cases counted :
        simulator.paymentId = id ∧
          (world.columns id).leaseToken = some token
    · -- Another simulator with the token that counted does not exist.
      rw [if_pos counted] at isLeased
      have isToken : token = simulator.token :=
        Option.some.inj (counted.2.symm.trans isLeased)
      have elsewhere : other ≠ slot := by
        intro isSlot
        simp [SimulatorWorld.setSimulator, isSlot] at isWorking
      have isOld : world.simulators other = some simulator := by
        simpa only [SimulatorWorld.setSimulator, SimulatorWorld.setColumns,
          Function.update_of_ne elsewhere] using isWorking
      exact absurd (fenced.sole isOld working isToken.symm) elsewhere
    · rw [if_neg counted] at isLeased ⊢
      exact stopped.unfinished isWorking isLeased found
  · intro other payment found
    simp only [SimulatorWorld.setSimulator, SimulatorWorld.setColumns,
      columns]
    split
    · rename_i counted
      obtain ⟨rfl, isLeased⟩ := counted
      exact fenced.unfinished working isLeased found
    · exact fenced.bounded found

end DispatchFenced

/-! ## What a transaction keeps -/

/-- The store goes on; what was delivered stays delivered. -/
structure CallbacksMove
    (digest : Request → Hash)
    (db after : Database Hash) : Prop where
  terms : TermsKept db after
  safe : PaymentSafe after
  own : CallbacksOwn digest after
  delivered : ∀ id, db.Delivered digest id → after.Delivered digest id

theorem callbacksMove_refl
    {digest : Request → Hash}
    {db : Database Hash}
    (safe : PaymentSafe db)
    (own : CallbacksOwn digest db) :
    CallbacksMove digest db db :=
  ⟨.refl db, safe, own, fun _ delivered => delivered⟩

section Transactions

variable
  [DecidableEq Hash]
  {self : PostgresReservations Hash}
  {db : Database Hash}

theorem termsKept_of_transaction
    (call : Call Hash)
    (ambient : Ambient) :
    TermsKept db (self.transaction call ambient db).2 := by
  have step :
      self.Step db ⟨call, ambient⟩ (self.transaction call ambient db).2 :=
    rfl
  exact .of_changes (PostgresReservations.changes_of_step step)

theorem paymentSafe_of_transaction
    (call : Call Hash)
    (ambient : Ambient)
    (safe : PaymentSafe db) :
    PaymentSafe (self.transaction call ambient db).2 := by
  have step :
      self.Step db ⟨call, ambient⟩ (self.transaction call ambient db).2 :=
    rfl
  exact PostgresReservations.step_invariant PaymentSafe.change safe step

/-- Calls that are no callbacks. -/
theorem callbacksMove_of_transaction
    {call : Call Hash}
    {ambient : Ambient}
    (safe : PaymentSafe db)
    (own : CallbacksOwn self.digest db)
    (other : call.isCallback = false) :
    CallbacksMove self.digest db (self.transaction call ambient db).2 := by
  have step :
      self.Step db ⟨call, ambient⟩ (self.transaction call ambient db).2 :=
    rfl
  rcases step.committed with rolledBack | ⟨result, accepted⟩
  · rw [rolledBack]
    exact callbacksMove_refl safe own
  · have framed := PostgresReservations.framed_of_body other accepted
    have terms : TermsKept db (self.transaction call ambient db).2 :=
      termsKept_of_transaction call ambient
    exact ⟨terms, paymentSafe_of_transaction call ambient safe,
      own.framed framed terms,
      fun _ delivered => delivered.framed framed terms⟩

/-- A callback of the simulator is answered, and not with a failure. -/
theorem transaction_of_simulated
    {payload : CallbackPayload}
    {ambient : Ambient}
    (safe : PaymentSafe db)
    (own : CallbacksOwn self.digest db)
    (simulates : db.Simulates payload) :
    CallbacksMove self.digest db
        (self.transaction (.callback payload) ambient db).2 ∧
      (∀ result,
        (self.transaction (.callback payload) ambient db).1 = .ok result →
        (self.transaction (.callback payload) ambient db).2.Delivered
          self.digest payload.paymentId) ∧
      (∀ failure,
        (self.transaction (.callback payload) ambient db).1 ≠
          .error (.failure failure)) ∧
      (db.paymentCallbacks.find? payload.paymentId ≠ none →
        self.transaction (.callback payload) ambient db =
          (.ok (.callback .duplicate), db)) := by
  by_cases recorded : db.paymentCallbacks.find? payload.paymentId = none
  · have avoids : Avoids Error.isFailure
        (self.callback payload ambient db) :=
      avoids_callback own simulates recorded
    have terms :
        TermsKept db (self.transaction (.callback payload) ambient db).2 :=
      termsKept_of_transaction _ ambient
    have after :
        PaymentSafe (self.transaction (.callback payload) ambient db).2 :=
      paymentSafe_of_transaction _ ambient safe
    cases called : self.callback payload ambient db with
    | error error =>
        have rolledBack :
            self.transaction (.callback payload) ambient db =
              (.error error, db) := by
          simp only [PostgresReservations.transaction,
            PostgresReservations.body, called, error_bind]
        rw [rolledBack]
        refine ⟨callbacksMove_refl safe own, by simp, ?_, ?_⟩
        · intro failure isFailure
          cases isFailure
          exact avoids _ called trivial
        · exact fun isRecorded => absurd recorded isRecorded
    | ok answer =>
        obtain ⟨status, written⟩ := answer
        have committed :
            self.transaction (.callback payload) ambient db =
              (.ok (.callback status), written) := by
          simp only [PostgresReservations.transaction,
            PostgresReservations.body, called, ok_bind]
          rfl
        rw [committed] at terms after ⊢
        obtain ⟨_, ownAfter, delivered, stays⟩ :=
          callback_of_unrecorded own simulates recorded terms called
        refine ⟨⟨terms, after, ownAfter, stays⟩, fun _ _ => delivered,
          by simp, ?_⟩
        exact fun isRecorded => absurd recorded isRecorded
  · have answered :
        self.transaction (.callback payload) ambient db =
          (.ok (.callback .duplicate), db) := by
      simp only [PostgresReservations.transaction,
        PostgresReservations.body, ok_bind,
        callback_of_recorded own simulates recorded]
      rfl
    rw [answered]
    exact ⟨callbacksMove_refl safe own,
      fun _ _ => own.recorded _ recorded, by simp, fun _ => rfl⟩

end Transactions

/-! ## The invariant -/

/-- The request is signed for the payment, and was answered after its delivery. -/
def Posted.Sound
    (digest : Request → Hash)
    (webhook : Webhook Signature)
    (db : Database Hash)
    (id : Uuid)
    (posted : Posted Signature) : Prop :=
  ∃ payload time,
    db.Simulates payload ∧
      payload.paymentId = id ∧
      posted.request = webhook.sign payload time ∧
      (posted.answered = true → db.Delivered digest id)

/-- What a simulator has achieved for its payment. -/
def Simulator.Sound
    (digest : Request → Hash)
    (webhook : Webhook Signature)
    (world : SimulatorWorld Hash Signature) : Simulator → Prop
  | .claimed _ payment order =>
      world.db.Simulates (simulatedPayload payment order)
  | .waiting _ id send =>
      ∃ posted,
        world.sends[send]? = some posted ∧
          posted.Sound digest webhook world.db id
  | .answered _ id => world.db.Delivered digest id

structure SimulatorSound
    (digest : Request → Hash)
    (webhook : Webhook Signature)
    (world : SimulatorWorld Hash Signature) : Prop where
  safe : PaymentSafe world.db
  own : CallbacksOwn digest world.db
  fenced : DispatchFenced world
  signed :
    ∀ {posted},
      posted ∈ world.sends →
      ∃ id, posted.Sound digest webhook world.db id
  simulators :
    ∀ {slot simulator},
      world.simulators slot = some simulator →
      simulator.Sound digest webhook world
  counted :
    ∀ id,
      0 < (world.columns id).deliveries →
      world.db.Delivered digest id

section Sound

variable
  {digest : Request → Hash}
  {webhook : Webhook Signature}
  {world : SimulatorWorld Hash Signature}

theorem Posted.Sound.kept
    {id : Uuid}
    {posted : Posted Signature}
    {after : Database Hash}
    (sound : posted.Sound digest webhook world.db id)
    (move : CallbacksMove digest world.db after) :
    posted.Sound digest webhook after id := by
  obtain ⟨payload, time, simulates, isId, isRequest, delivered⟩ := sound
  exact ⟨payload, time, simulates.kept move.terms, isId, isRequest,
    fun answered => move.delivered id (delivered answered)⟩

/-- A simulator keeps what it has when requests only become answered. -/
theorem Simulator.Sound.kept
    {simulator : Simulator}
    {after : SimulatorWorld Hash Signature}
    (sound : simulator.Sound digest webhook world)
    (move : CallbacksMove digest world.db after.db)
    (sends :
      ∀ (send : Nat) posted id,
        world.sends[send]? = some posted →
        posted.Sound digest webhook world.db id →
        ∃ next,
          after.sends[send]? = some next ∧
            next.Sound digest webhook after.db id) :
    simulator.Sound digest webhook after := by
  cases simulator with
  | claimed token payment order =>
      exact Database.Simulates.kept move.terms sound
  | waiting token id send =>
      obtain ⟨posted, found, isSound⟩ := sound
      exact sends send posted id found isSound
  | answered token id => exact move.delivered id sound

namespace SimulatorSound

theorem move_refl
    (sound : SimulatorSound digest webhook world) :
    CallbacksMove digest world.db world.db :=
  callbacksMove_refl sound.safe sound.own

/-- The store moves, and requests become answered after their delivery. -/
theorem commit
    {after : Database Hash}
    {sends : List (Posted Signature)}
    (sound : SimulatorSound digest webhook world)
    (move : CallbacksMove digest world.db after)
    (answered :
      ∀ send : Nat,
        (∀ posted,
          sends[send]? = some posted →
          (world.sends[send]?).isSome = true) ∧
        ∀ posted id,
          world.sends[send]? = some posted →
          posted.Sound digest webhook world.db id →
          ∃ next,
            sends[send]? = some next ∧
              next.Sound digest webhook after id) :
    SimulatorSound digest webhook ((world.commit after).setSends sends) := by
  refine ⟨move.safe, move.own,
    (sound.fenced.commit move.terms).setSends sends, ?_, ?_, ?_⟩
  · intro posted member
    obtain ⟨send, found⟩ := List.mem_iff_getElem?.mp member
    obtain ⟨before, isBefore⟩ :=
      Option.isSome_iff_exists.mp ((answered send).1 posted found)
    obtain ⟨id, isSound⟩ := sound.signed (List.mem_of_getElem? isBefore)
    obtain ⟨next, isNext, nextSound⟩ :=
      (answered send).2 before id isBefore isSound
    cases found.symm.trans isNext
    exact ⟨id, nextSound⟩
  · intro slot simulator working
    exact (sound.simulators working).kept move
      fun send posted id => (answered send).2 posted id
  · intro id positive
    simp only [SimulatorWorld.setSends, SimulatorWorld.commit] at positive
    split at positive
    · cases positive
    · exact move.delivered id (sound.counted id positive)

/-- The store moves, and no request is answered. -/
theorem commit_silent
    {after : Database Hash}
    (sound : SimulatorSound digest webhook world)
    (move : CallbacksMove digest world.db after) :
    SimulatorSound digest webhook (world.commit after) := by
  apply sound.commit move
  intro send
  refine ⟨fun posted found => by rw [found]; rfl, ?_⟩
  intro posted id found isSound
  exact ⟨posted, found, isSound.kept move⟩

/-- A simulator changes its state or stops, with the columns of a payment. -/
theorem dispatch
    {slot : Nat}
    {id : Uuid}
    {columns : DispatchColumns}
    {tokens : List Uuid}
    {simulator : Option Simulator}
    (sound : SimulatorSound digest webhook world)
    (fenced :
      DispatchFenced
        (({ world with tokens := tokens }.setColumns id columns).setSimulator
          slot simulator))
    (next :
      ∀ moved,
        simulator = some moved →
        moved.Sound digest webhook world)
    (counted : 0 < columns.deliveries → world.db.Delivered digest id) :
    SimulatorSound digest webhook
      (({ world with tokens := tokens }.setColumns id columns).setSimulator
        slot simulator) := by
  refine ⟨sound.safe, sound.own, fenced, sound.signed, ?_, ?_⟩
  · intro other found isFound
    have isSound : found.Sound digest webhook world := by
      simp only [SimulatorWorld.setSimulator,
        SimulatorWorld.setColumns] at isFound
      by_cases same : other = slot
      · rw [same, Function.update_self] at isFound
        exact next found isFound
      · rw [Function.update_of_ne same] at isFound
        exact sound.simulators isFound
    exact isSound.kept sound.move_refl
      fun send posted id isPosted posts => ⟨posted, isPosted, posts⟩
  · intro other positive
    simp only [SimulatorWorld.setSimulator,
      SimulatorWorld.setColumns] at positive
    by_cases same : other = id
    · subst same
      rw [Function.update_self] at positive
      exact counted positive
    · rw [Function.update_of_ne same] at positive
      exact sound.counted other positive

/-- A simulator changes its state, or stops. -/
theorem setSimulator
    {slot : Nat}
    {simulator : Option Simulator}
    (sound : SimulatorSound digest webhook world)
    (fenced : DispatchFenced (world.setSimulator slot simulator))
    (next :
      ∀ moved,
        simulator = some moved →
        moved.Sound digest webhook world) :
    SimulatorSound digest webhook (world.setSimulator slot simulator) := by
  have same :
      { world with tokens := world.tokens }.setColumns 0 (world.columns 0) =
        world := by
    simp [SimulatorWorld.setColumns]
  rw [← same] at fenced ⊢
  exact sound.dispatch fenced next (sound.counted 0)

/-- Another signed request is on the wire. -/
theorem send
    {payload : CallbackPayload}
    {time : Int}
    (sound : SimulatorSound digest webhook world)
    (simulates : world.db.Simulates payload) :
    SimulatorSound digest webhook
      (world.setSends
        (world.sends ++ [{ request := webhook.sign payload time }])) := by
  refine ⟨sound.safe, sound.own, sound.fenced.setSends _, ?_, ?_,
    sound.counted⟩
  · intro posted member
    rcases List.mem_append.mp member with old | new
    · exact sound.signed old
    · rw [List.mem_singleton.mp new]
      exact ⟨_, payload, time, simulates, rfl, rfl, by simp⟩
  · intro slot simulator working
    refine (sound.simulators working).kept sound.move_refl ?_
    intro send posted id isPosted posts
    have within := (List.getElem?_eq_some_iff.mp isPosted).1
    refine ⟨posted, ?_, posts⟩
    exact (List.getElem?_append_left within).trans isPosted

section Requests

variable [DecidableEq Signature]

/-- Only what a simulator has signed passes the checks. -/
theorem authentic
    {request : WebhookRequest Signature}
    {time : Int}
    {payload : CallbackPayload}
    (sound : SimulatorSound digest webhook world)
    (faithful : webhook.Faithful)
    (unforged : world.Unforged webhook request)
    (checked : webhook.check request time = .ok payload) :
    world.db.Simulates payload ∧
      ∃ posted ∈ world.sends,
        posted.request.timestamp = request.timestamp ∧
          posted.request.raw = request.raw := by
  obtain ⟨decoded, _, _, verifies⟩ := Webhook.check_eq_ok.mp checked
  obtain ⟨posted, member, sameText⟩ := unforged verifies
  obtain ⟨sameTime, sameRaw⟩ := signedText_inj.mp sameText
  obtain ⟨_, signed, _, simulates, _, isRequest, _⟩ := sound.signed member
  refine ⟨?_, posted, member, sameTime, sameRaw⟩
  have isRaw : webhook.encode signed = request.raw := by
    rw [← sameRaw, isRequest]
    rfl
  rw [← isRaw] at decoded
  rw [faithful signed payload decoded]
  exact simulates

/-- The webhook handles what anybody may post. -/
theorem handle
    [DecidableEq Hash]
    {self : PostgresReservations Hash}
    {request : WebhookRequest Signature}
    {time : Int}
    {ambient : Ambient}
    (sound : SimulatorSound self.digest webhook world)
    (faithful : webhook.Faithful)
    (unforged : world.Unforged webhook request) :
    CallbacksMove self.digest world.db
        (handleCallback self webhook request time ambient world.db).2 ∧
      (returned
          (handleCallback self webhook request time ambient world.db).1 =
          true →
        ∃ payload,
          webhook.decode request.raw = some payload ∧
            (handleCallback self webhook request time ambient
              world.db).2.Delivered self.digest payload.paymentId) := by
  unfold handleCallback
  cases checked : webhook.check request time with
  | error refusal => exact ⟨sound.move_refl, by simp [returned]⟩
  | ok payload =>
      obtain ⟨simulates, _⟩ := sound.authentic faithful unforged checked
      obtain ⟨move, delivers, _, _⟩ :=
        transaction_of_simulated sound.safe sound.own simulates
      refine ⟨move, ?_⟩
      intro isReturned
      have isReturned :
          returned
            (.ok
              (self.transaction (.callback payload) ambient
                world.db).1) = true :=
        isReturned
      cases answer : (self.transaction (.callback payload) ambient
          world.db).1 with
      | error error =>
          rw [answer] at isReturned
          cases isReturned
      | ok result =>
          exact ⟨payload, (Webhook.check_eq_ok.mp checked).1,
            delivers result answer⟩

/-- A request arrives, and is marked as answered once it is delivered. -/
theorem deliver
    [DecidableEq Hash]
    {self : PostgresReservations Hash}
    {send : Nat}
    {time : Int}
    {ambient : Ambient}
    {posted : Posted Signature}
    (sound : SimulatorSound self.digest webhook world)
    (faithful : webhook.Faithful)
    (found : world.sends[send]? = some posted) :
    SimulatorSound self.digest webhook
      ((world.commit
          (handleCallback self webhook posted.request time ambient
            world.db).2).setSends
        (world.sends.modify send fun posted =>
          { posted with
            answered :=
              posted.answered ||
                returned
                  (handleCallback self webhook posted.request time ambient
                    world.db).1 })) := by
  have unforged : world.Unforged webhook posted.request :=
    fun _ => ⟨posted, List.mem_of_getElem? found, rfl⟩
  obtain ⟨move, delivers⟩ := sound.handle faithful unforged
  apply sound.commit move
  intro index
  refine ⟨?_, ?_⟩
  · intro next isNext
    rw [List.getElem?_modify] at isNext
    simpa using congrArg Option.isSome isNext
  · intro before id isBefore isSound
    have kept := isSound.kept move
    rw [List.getElem?_modify, isBefore]
    by_cases same : send = index
    · subst same
      cases found.symm.trans isBefore
      simp only [if_true, Option.map_eq_map, Option.map_some,
        Option.some.injEq, exists_eq_left']
      obtain ⟨payload, signedAt, simulates, isId, isRequest, delivered⟩ :=
        kept
      refine ⟨payload, signedAt, simulates, isId, isRequest, ?_⟩
      intro answered
      rcases (Bool.or_eq_true _ _).mp answered with earlier | now
      · exact delivered earlier
      · obtain ⟨read, decoded, isDelivered⟩ := delivers now
        rw [isRequest] at decoded
        rw [faithful payload read decoded, isId] at isDelivered
        exact isDelivered
    · simp only [if_neg same, Option.map_eq_map, Option.map_some]
      exact ⟨before, rfl, kept⟩

theorem step
    [DecidableEq Hash]
    {self : PostgresReservations Hash}
    {action : SimulatorAction Hash Signature}
    {after : SimulatorWorld Hash Signature}
    (sound : SimulatorSound self.digest webhook world)
    (faithful : webhook.Faithful)
    (step : world.Step self webhook action after) :
    SimulatorSound self.digest webhook after := by
  cases step with
  | transact other =>
      exact sound.commit_silent
        (callbacksMove_of_transaction sound.safe sound.own other)
  | @claim slot token now locked payment order _ fresh claims =>
      have simulates :
          world.db.Simulates (simulatedPayload payment order) :=
        ⟨payment, order, claims.found, claims.joined, rfl⟩
      apply sound.dispatch (sound.fenced.claim fresh claims)
      · intro moved isMoved
        cases isMoved
        exact simulates
      · exact sound.counted payment.id
  | @post slot time token payment order working =>
      have simulates := sound.simulators working
      have sent :
          SimulatorSound self.digest webhook
            (world.setSends
              (world.sends ++
                [{ request :=
                    webhook.sign (simulatedPayload payment order)
                      time }])) :=
        sound.send simulates
      apply sent.setSimulator
      · exact sent.fenced.proceed working rfl rfl
      · intro moved isMoved
        cases isMoved
        refine ⟨_, List.getElem?_concat_length, ?_⟩
        exact ⟨_, time, simulates, rfl, rfl, by simp⟩
  | deliver found => exact sound.deliver faithful found
  | inject unforged =>
      exact sound.commit_silent (sound.handle faithful unforged).1
  | receive working found answered =>
      apply sound.setSimulator
      · exact sound.fenced.proceed working rfl rfl
      · intro moved isMoved
        cases isMoved
        obtain ⟨posted, isPosted, _, _, _, _, _, delivered⟩ :=
          sound.simulators working
        cases found.symm.trans isPosted
        exact delivered answered
  | record working =>
      exact sound.dispatch (sound.fenced.record working) (by simp)
        fun _ => sound.simulators working
  | fail =>
      exact sound.setSimulator (sound.fenced.stop _) (by simp)

end Requests

end SimulatorSound

end Sound

/-! ## Runs -/

/-- An initial store, and no simulator has started. -/
structure SimulatorWorld.Initial
    (world : SimulatorWorld Hash Signature) : Prop where
  db : world.db.Initial
  fresh : world = { db := world.db }

theorem SimulatorWorld.Initial.sound
    {digest : Request → Hash}
    {webhook : Webhook Signature}
    {world : SimulatorWorld Hash Signature}
    (initial : world.Initial) :
    SimulatorSound digest webhook world := by
  have noCallback : ∀ id, world.db.paymentCallbacks.find? id = none := by
    rw [initial.db.fresh]
    exact fun _ => rfl
  have noPayment : ∀ id, world.db.paymentAttempts.find? id = none := by
    rw [initial.db.fresh]
    exact fun _ => rfl
  have own : CallbacksOwn digest world.db :=
    ⟨fun id recorded => absurd (noCallback id) recorded,
      by simp [noPayment]⟩
  rw [initial.fresh]
  refine ⟨initial.db.paymentSafe, own, ?_, by simp, by simp, by simp⟩
  exact ⟨by simp, by simp, by simp, by simp, by simp⟩

section Runs

variable
  [DecidableEq Hash]
  [DecidableEq Signature]
  {self : PostgresReservations Hash}
  {webhook : Webhook Signature}
  {start world : SimulatorWorld Hash Signature}
  {trace : List (SimulatorAction Hash Signature)}

theorem SimulatorSound.run
    (faithful : webhook.Faithful)
    (initial : start.Initial)
    (run : Run (SimulatorWorld.Step self webhook) start trace world) :
    SimulatorSound self.digest webhook world :=
  run.invariant initial.sound fun sound step => sound.step faithful step

omit [DecidableEq Hash] [DecidableEq Signature] in
/-- If a payment can be claimed, one that is due first is claimed. -/
theorem SimulatorSound.claims
    {payment : PaymentAttempt}
    {now : Int}
    (sound : SimulatorSound self.digest webhook world)
    (found : world.db.paymentAttempts.find? payment.id = some payment)
    (claimable : (world.columns payment.id).Claimable payment now) :
    ∃ first order, world.Claims now [] first order := by
  classical
  let rows :=
    world.db.paymentAttempts.rows.filter fun row =>
      decide ((world.columns row.id).Claimable row now)
  have mem_rows {row : PaymentAttempt}
      (rowFound : world.db.paymentAttempts.find? row.id = some row)
      (rowClaimable : (world.columns row.id).Claimable row now) :
      row ∈ rows :=
    List.mem_filter.mpr
      ⟨Table.mem_of_find? rowFound, by simpa using rowClaimable⟩
  cases isFirst : rows.argmin PaymentAttempt.dueAt with
  | none =>
      rw [List.argmin_eq_none] at isFirst
      have member := mem_rows found claimable
      rw [isFirst] at member
      cases member
  | some first =>
      obtain ⟨member, isClaimable⟩ :=
        List.mem_filter.mp (List.argmin_mem isFirst)
      have firstFound : world.db.paymentAttempts.find? first.id = some first :=
        Table.find?_key member
      obtain ⟨order, joined, _⟩ := sound.safe.settled.ordered firstFound
      refine ⟨first, order, firstFound, joined, by simpa using isClaimable,
        by simp, ?_⟩
      intro other otherFound _ otherClaimable _
      exact List.le_of_mem_argmin (mem_rows otherFound otherClaimable) isFirst

/--
In every reachable state a payment is pending or has its own outcome.  Whatever
anybody posts, the webhook hands on only what a simulator has signed within five
minutes, for a payment of the store and with its terms.  The store never refuses
it, and answers it without a trace once it is recorded.
-/
theorem callbacks_authentic
    (faithful : webhook.Faithful)
    (initial : start.Initial)
    (run : Run (SimulatorWorld.Step self webhook) start trace world) :
    (∀ id payment,
      world.db.paymentAttempts.find? id = some payment →
      payment.status = .pending ∨
        payment.status = payment.outcome.status) ∧
    ∀ request time payload,
      world.Unforged webhook request →
      webhook.check request time = .ok payload →
      world.db.Simulates payload ∧
        (∃ posted ∈ world.sends,
          posted.request.timestamp = request.timestamp ∧
            posted.request.raw = request.raw ∧
            |time - posted.request.timestamp * second| ≤ 300 * second) ∧
        ∀ ambient,
          (∀ failure,
            (self.transaction (.callback payload) ambient world.db).1 ≠
              .error (.failure failure)) ∧
          (world.db.paymentCallbacks.find? payload.paymentId ≠ none →
            self.transaction (.callback payload) ambient world.db =
              (.ok (.callback .duplicate), world.db)) := by
  have sound := SimulatorSound.run faithful initial run
  constructor
  · intro id payment found
    by_cases recorded : world.db.paymentCallbacks.find? id = none
    · exact Or.inl (sound.own.pending found recorded)
    · obtain ⟨row, _, _, rowFound, _, settled, _⟩ :=
        sound.own.recorded id recorded
      cases found.symm.trans rowFound
      exact Or.inr settled
  · intro request time payload unforged checked
    obtain ⟨simulates, posted, member, sameTime, sameRaw⟩ :=
      sound.authentic faithful unforged checked
    obtain ⟨_, _, near, _⟩ := Webhook.check_eq_ok.mp checked
    refine ⟨simulates, ⟨posted, member, sameTime, sameRaw, ?_⟩, ?_⟩
    · rw [sameTime]
      exact near
    · intro ambient
      obtain ⟨_, _, unrefused, repeated⟩ :=
        transaction_of_simulated sound.safe sound.own simulates
      exact ⟨unrefused, repeated⟩

/--
In every reachable state a payment has at most as many counted deliveries as it
asked for, and a counted delivery means that the payment has its own outcome and
a recorded callback.  At most one simulator can count the next one.  While a
delivery is undone and without a lease, an idle simulator claims a payment, and
it claims that of the delivery if those due before it are locked.
-/
theorem deliveries_fenced
    (faithful : webhook.Faithful)
    (initial : start.Initial)
    (run : Run (SimulatorWorld.Step self webhook) start trace world) :
    (∀ id payment,
      world.db.paymentAttempts.find? id = some payment →
      (world.columns id).deliveries ≤ payment.targetDeliveries ∧
        (0 < (world.columns id).deliveries →
          payment.status = payment.outcome.status ∧
            world.db.paymentCallbacks.find? id ≠ none)) ∧
    (∀ first second one other,
      world.simulators first = some one →
      world.simulators second = some other →
      one.paymentId = other.paymentId →
      (world.columns one.paymentId).leaseToken = some one.token →
      (world.columns other.paymentId).leaseToken = some other.token →
      first = second) ∧
    ∀ payment now slot token,
      world.db.paymentAttempts.find? payment.id = some payment →
      (world.columns payment.id).Claimable payment now →
      world.simulators slot = none →
      token ∉ world.tokens →
      (∃ after,
        world.Step self webhook (.claim slot token now []) after) ∧
      ∀ locked,
        payment.id ∉ locked →
        (∀ other,
          world.db.paymentAttempts.find? other.id = some other →
          (world.columns other.id).Claimable other now →
          other.dueAt < payment.dueAt →
          other.id ∈ locked) →
        ∃ order after,
          world.Step self webhook (.claim slot token now locked) after ∧
            after.simulators slot = some (.claimed token payment order) ∧
            (after.columns payment.id).leaseToken = some token := by
  have sound := SimulatorSound.run faithful initial run
  refine ⟨?_, ?_, ?_⟩
  · intro id payment found
    refine ⟨sound.fenced.bounded found, ?_⟩
    intro positive
    obtain ⟨row, _, callback, rowFound, _, settled, recorded, _⟩ :=
      sound.counted id positive
    cases found.symm.trans rowFound
    exact ⟨settled, by simp [recorded]⟩
  · intro first second one other isOne isOther samePayment oneLeased otherLeased
    rw [← samePayment, oneLeased] at otherLeased
    exact sound.fenced.sole isOne isOther (Option.some.inj otherLeased)
  · intro payment now slot token found claimable idle fresh
    obtain ⟨first, firstOrder, firstClaims⟩ := sound.claims found claimable
    refine ⟨⟨_, .claim idle fresh firstClaims⟩, ?_⟩
    intro locked unlocked earlier
    obtain ⟨order, joined, _⟩ := sound.safe.settled.ordered found
    have claims : world.Claims now locked payment order := by
      refine ⟨found, joined, claimable, unlocked, ?_⟩
      intro other otherFound _ otherClaimable otherUnlocked
      by_contra before
      exact otherUnlocked
        (earlier other otherFound otherClaimable (not_le.mp before))
    refine ⟨order, _, .claim idle fresh claims, ?_, ?_⟩
    · exact Function.update_self _ _ _
    · simp [SimulatorWorld.setSimulator, SimulatorWorld.setColumns,
        DispatchColumns.lease]

end Runs

/-! ## One payment, delivered -/

/-- The pending payment of a small purchase. -/
def smallDue : PaymentAttempt where
  id := 200
  orderId := 101
  status := .pending
  outcome := .succeeded
  dueAt := 2 * second
  targetDeliveries := 1

/-- Its order. -/
def smallDueOrder : Order where
  id := 101
  actor := "alice"
  holdId := 100
  eventId := 1
  total := 500
  currency := "THB"
  status := .pending
  createdAt := 1 * second

/-- A webhook that signs with the text itself and knows one payload. -/
def smallWebhook : Webhook (List UInt8) where
  hmac := id
  encode payload :=
    if payload = simulatedPayload smallDue smallDueOrder then
      decimal 200 ++ 44 :: decimal 101
    else
      []
  decode raw :=
    if raw = decimal 200 ++ 44 :: decimal 101 then
      some (simulatedPayload smallDue smallDueOrder)
    else
      none

theorem smallWebhook_faithful : smallWebhook.Faithful := by
  intro payload read isRead
  by_cases known : payload = simulatedPayload smallDue smallDueOrder
  · simp only [smallWebhook, if_pos known, if_true,
      Option.some.injEq] at isRead
    rw [known, isRead]
  · have unknown :
        smallWebhook.decode (smallWebhook.encode payload) = none := by
      simp only [smallWebhook, if_neg known]
      decide
    rw [unknown] at isRead
    cases isRead

def simulatorStart : SimulatorWorld Request (List UInt8) where
  db := smallSale

/-- The payment is opened. -/
def simulatorDue : SimulatorWorld Request (List UInt8) :=
  (simulatorStart.commit
      (smallStore.replay smallSale (smallPurchase.take 1))).commit
    (smallStore.replay smallSale (smallPurchase.take 2))

/-- A simulator has leased the payment. -/
def simulatorClaimed : SimulatorWorld Request (List UInt8) :=
  ({ simulatorDue with tokens := [900] }.setColumns 200
      ((simulatorDue.columns 200).lease 900 (3 * second))).setSimulator 0
    (some (.claimed 900 smallDue smallDueOrder))

/-- Its request is on the wire. -/
def simulatorPosted : SimulatorWorld Request (List UInt8) :=
  (simulatorClaimed.setSends
      [{ request :=
          smallWebhook.sign (simulatedPayload smallDue smallDueOrder)
            (4 * second) }]).setSimulator 0
    (some (.waiting 900 200 0))

/-- The webhook has answered the request. -/
def simulatorDelivered : SimulatorWorld Request (List UInt8) :=
  (simulatorPosted.commit
      (handleCallback smallStore smallWebhook
        (smallWebhook.sign (simulatedPayload smallDue smallDueOrder)
          (4 * second)) (5 * second) (smallAmbient 5 400)
        simulatorPosted.db).2).setSends
    (simulatorPosted.sends.modify 0 fun posted =>
      { posted with
        answered :=
          posted.answered ||
            returned
              (handleCallback smallStore smallWebhook posted.request
                (5 * second) (smallAmbient 5 400) simulatorPosted.db).1 })

/-- The delivery is counted. -/
def simulatorRecorded : SimulatorWorld Request (List UInt8) :=
  ((simulatorDelivered.setSimulator 0 (some (.answered 900 200))).setColumns 200
      ((simulatorDelivered.columns 200).record 900)).setSimulator 0 none

theorem claims_simulatorDue :
    simulatorDue.Claims (3 * second) [] smallDue smallDueOrder := by
  have only (other : PaymentAttempt)
      (found :
        simulatorDue.db.paymentAttempts.find? other.id = some other) :
      other = smallDue := by
    have rows : simulatorDue.db.paymentAttempts.rows = [smallDue] := by
      decide
    have member := Table.mem_of_find? found
    rw [Table.mem_def, rows] at member
    exact List.mem_singleton.mp member
  refine ⟨by decide, by decide, ⟨by decide, by decide, ?_⟩, by simp, ?_⟩
  · intro leaseUntil isLeased
    cases isLeased
  · intro other found _ _ _
    rw [only other found]

theorem run_simulatorDelivered :
    Run (SimulatorWorld.Step smallStore smallWebhook) simulatorStart
      [.transact (.reserve "alice" 1 ["A1"] "first") (smallAmbient 1 100),
        .transact (.initiatePayment "alice" 101 "pay" .succeeded 0 1)
          (smallAmbient 2 200),
        .claim 0 900 (3 * second) [], .post 0 (4 * second),
        .deliver 0 (5 * second) (smallAmbient 5 400)]
      simulatorDelivered := by
  have opens :
      Run (SimulatorWorld.Step smallStore smallWebhook) simulatorStart
        [.transact (.reserve "alice" 1 ["A1"] "first") (smallAmbient 1 100),
          .transact (.initiatePayment "alice" 101 "pay" .succeeded 0 1)
            (smallAmbient 2 200)] simulatorDue :=
    .cons (.transact rfl) (.single (.transact rfl))
  have claims :
      SimulatorWorld.Step smallStore smallWebhook simulatorDue
        (.claim 0 900 (3 * second) []) simulatorClaimed :=
    .claim rfl (by decide) claims_simulatorDue
  have posts :
      SimulatorWorld.Step smallStore smallWebhook simulatorClaimed
        (.post 0 (4 * second)) simulatorPosted :=
    .post rfl
  have delivers :
      SimulatorWorld.Step smallStore smallWebhook simulatorPosted
        (.deliver 0 (5 * second) (smallAmbient 5 400))
        simulatorDelivered := by
    have found :
        simulatorPosted.sends[0]? =
          some {
            request :=
              smallWebhook.sign (simulatedPayload smallDue smallDueOrder)
                (4 * second) } :=
      rfl
    exact .deliver found
  exact opens.append (.cons claims (.cons posts (.single delivers)))

theorem run_simulatorRecorded :
    Run (SimulatorWorld.Step smallStore smallWebhook) simulatorDelivered
      [.receive 0, .record 0] simulatorRecorded := by
  have receives :
      SimulatorWorld.Step smallStore smallWebhook simulatorDelivered
        (.receive 0)
        (simulatorDelivered.setSimulator 0 (some (.answered 900 200))) := by
    have working :
        simulatorDelivered.simulators 0 = some (.waiting 900 200 0) := rfl
    exact .receive working rfl (by decide)
  exact .cons receives (.single (.record rfl))

/--
The request of the simulator arrives twice, and the second time it is only
acknowledged.
-/
theorem callbacks_authentic_smallSale :
    smallWebhook.check
        (smallWebhook.sign (simulatedPayload smallDue smallDueOrder)
          (4 * second)) (6 * second) =
        .ok (simulatedPayload smallDue smallDueOrder) ∧
      smallStore.transaction
          (.callback (simulatedPayload smallDue smallDueOrder))
          (smallAmbient 6 500) simulatorDelivered.db =
        (.ok (.callback .duplicate), simulatorDelivered.db) := by
  have initial : simulatorStart.Initial := ⟨smallSale_initial, rfl⟩
  obtain ⟨_, authentic⟩ :=
    callbacks_authentic smallWebhook_faithful initial run_simulatorDelivered
  have checked :
      smallWebhook.check
          (smallWebhook.sign (simulatedPayload smallDue smallDueOrder)
            (4 * second)) (6 * second) =
        .ok (simulatedPayload smallDue smallDueOrder) := by
    decide
  have unforged :
      simulatorDelivered.Unforged smallWebhook
        (smallWebhook.sign (simulatedPayload smallDue smallDueOrder)
          (4 * second)) :=
    fun _ => ⟨_, List.mem_singleton_self _, rfl⟩
  obtain ⟨_, _, answered⟩ := authentic _ _ _ unforged checked
  exact ⟨checked, (answered (smallAmbient 6 500)).2 (by decide)⟩

/--
The one delivery that was asked for is counted.  Had the simulator stopped
before that, another one could claim the payment when the lease is over.
-/
theorem deliveries_fenced_smallSale :
    ((simulatorRecorded.columns 200).deliveries = 1 ∧
      smallPayment.status = smallPayment.outcome.status ∧
      simulatorRecorded.db.paymentCallbacks.find? 200 ≠ none) ∧
    ∃ order after,
      simulatorDelivered.Step smallStore smallWebhook
          (.claim 1 901 (19 * second) []) after ∧
        after.simulators 1 = some (.claimed 901 smallPayment order) ∧
        (after.columns 200).leaseToken = some 901 := by
  have initial : simulatorStart.Initial := ⟨smallSale_initial, rfl⟩
  obtain ⟨counted, _, _⟩ :=
    deliveries_fenced smallWebhook_faithful initial
      (run_simulatorDelivered.append run_simulatorRecorded)
  obtain ⟨_, _, claimed⟩ :=
    deliveries_fenced smallWebhook_faithful initial run_simulatorDelivered
  have only (other : PaymentAttempt)
      (found :
        simulatorDelivered.db.paymentAttempts.find? other.id =
          some other) :
      other = smallPayment := by
    have rows :
        simulatorDelivered.db.paymentAttempts.rows = [smallPayment] := by
      decide
    have member := Table.mem_of_find? found
    rw [Table.mem_def, rows] at member
    exact List.mem_singleton.mp member
  have claimable :
      (simulatorDelivered.columns 200).Claimable smallPayment
        (19 * second) := by
    refine ⟨by decide, by decide, ?_⟩
    rintro leaseUntil ⟨⟩
    decide
  obtain ⟨_, mine⟩ :=
    claimed smallPayment (19 * second) 1 901 (by decide) claimable rfl
      (by decide)
  refine ⟨⟨by decide, (counted 200 smallPayment (by decide)).2 (by decide)⟩,
    mine [] (by decide) ?_⟩
  intro other found _ before
  rw [only other found] at before
  exact absurd before (lt_irrefl _)

end FlashTicketing
