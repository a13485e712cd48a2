import FlashTicketing.PaymentSettlement

namespace FlashTicketing

open Relational Checked

/-!
# The payment webhook

A callback is signed over its timestamp, a dot and the raw body.  The text that
is signed determines both, so a signature cannot be moved to another callback.
Where every callback is the simulator's own, the first one of a payment settles
it to the outcome of that payment and all others leave the store alone.
-/

variable {Hash Signature : Type}

/-! ## The signed text -/

/-- The ASCII code of a decimal digit. -/
def digitOctet (digit : Nat) : UInt8 :=
  (48 + digit).toUInt8

/-- The decimal digits of a number, the highest first. -/
def decimalDigits (value : Nat) : List Nat :=
  if value = 0 then [0] else (Nat.digits 10 value).reverse

/-- `str(timestamp).encode()`. -/
def decimal : Int → List UInt8
  | .ofNat value => (decimalDigits value).map digitOctet
  | .negSucc value => 45 :: (decimalDigits (value + 1)).map digitOctet

/-- `str(timestamp).encode() + b"." + raw`. -/
def signedText (timestamp : Int) (raw : List UInt8) : List UInt8 :=
  decimal timestamp ++ 46 :: raw

theorem decimalDigits_lt_ten
    {value digit : Nat}
    (member : digit ∈ decimalDigits value) :
    digit < 10 := by
  unfold decimalDigits at member
  split at member
  · rw [List.mem_singleton.mp member]
    decide
  · exact Nat.digits_lt_base (by decide) (List.mem_reverse.mp member)

theorem decimalDigits_injective : Function.Injective decimalDigits := by
  have positive {value : Nat} (nonzero : value ≠ 0) :
      (Nat.digits 10 value).reverse ≠ [0] := by
    intro isZero
    have digits : Nat.digits 10 value = [0] := by
      rw [← List.reverse_reverse (Nat.digits 10 value), isZero]
      rfl
    have sum := Nat.ofDigits_digits 10 value
    rw [digits] at sum
    exact nonzero sum.symm
  intro first second same
  unfold decimalDigits at same
  split at same <;> split at same
  · omega
  · rename_i nonzero
    exact absurd same.symm (positive nonzero)
  · rename_i nonzero _
    exact absurd same (positive nonzero)
  · exact Nat.digits.injective 10 (List.reverse_injective same)

theorem toNat_digitOctet
    {digit : Nat}
    (isDigit : digit < 10) :
    (digitOctet digit).toNat = 48 + digit := by
  simp only [digitOctet, UInt8.toNat_ofNat']
  omega

/-- The digits are read back from their codes. -/
theorem map_digitOctet_read
    {digits : List Nat}
    (isDigit : ∀ digit ∈ digits, digit < 10) :
    (digits.map digitOctet).map (fun octet => octet.toNat - 48) = digits := by
  rw [List.map_map]
  apply (List.map_congr_left ?_).trans (List.map_id digits)
  intro digit member
  simp [toNat_digitOctet (isDigit digit member)]

theorem decimalDigits_octets_inj
    {first second : Nat}
    (same :
      (decimalDigits first).map digitOctet =
        (decimalDigits second).map digitOctet) :
    first = second := by
  apply decimalDigits_injective
  rw [← map_digitOctet_read (fun _ => decimalDigits_lt_ten), same,
    map_digitOctet_read (fun _ => decimalDigits_lt_ten)]

/-- Neither the minus sign nor the dot is the code of a digit. -/
theorem octet_of_mem_decimalDigits
    {value : Nat}
    {octet : UInt8}
    (member : octet ∈ (decimalDigits value).map digitOctet) :
    48 ≤ octet.toNat := by
  obtain ⟨digit, isDigit, isOctet⟩ := List.mem_map.mp member
  rw [← isOctet, toNat_digitOctet (decimalDigits_lt_ten isDigit)]
  omega

theorem decimal_injective : Function.Injective decimal := by
  -- A text that starts with a minus sign is no text of a natural number.
  have unsigned {value other : Nat} :
      (decimalDigits value).map digitOctet ≠
        45 :: (decimalDigits (other + 1)).map digitOctet := by
    intro same
    have sign : 45 ∈ (decimalDigits value).map digitOctet := by
      rw [same]
      exact List.mem_cons_self
    exact absurd (octet_of_mem_decimalDigits sign) (by decide)
  intro first second same
  cases first with
  | ofNat firstValue =>
      cases second with
      | ofNat secondValue => rw [decimalDigits_octets_inj same]
      | negSucc secondValue => exact absurd same unsigned
  | negSucc firstValue =>
      cases second with
      | ofNat secondValue => exact absurd same.symm unsigned
      | negSucc secondValue =>
          have same := decimalDigits_octets_inj (List.cons.inj same).2
          rw [Nat.succ.inj same]

theorem dot_notMem_decimal (timestamp : Int) : 46 ∉ decimal timestamp := by
  have notDigit {value : Nat} :
      46 ∉ (decimalDigits value).map digitOctet := by
    intro member
    exact absurd (octet_of_mem_decimalDigits member) (by decide)
  cases timestamp with
  | ofNat value => exact notDigit
  | negSucc value =>
      simp only [decimal, List.mem_cons, not_or]
      exact ⟨by decide, notDigit⟩

/-- What stands before the first dot of a signed text. -/
theorem takeWhile_signedText
    (timestamp : Int)
    (raw : List UInt8) :
    (signedText timestamp raw).takeWhile (fun octet => octet ≠ 46) =
      decimal timestamp := by
  rw [signedText, List.takeWhile_append_of_pos]
  · simp
  · intro octet member
    have other : octet ≠ 46 := by
      intro isDot
      exact dot_notMem_decimal timestamp (isDot ▸ member)
    simpa using other

/-- The signed text determines the timestamp and the body. -/
theorem signedText_inj
    {firstTime secondTime : Int}
    {firstRaw secondRaw : List UInt8} :
    signedText firstTime firstRaw = signedText secondTime secondRaw ↔
      firstTime = secondTime ∧ firstRaw = secondRaw := by
  constructor
  · intro same
    have sameTime : firstTime = secondTime := by
      apply decimal_injective
      rw [← takeWhile_signedText firstTime firstRaw, same,
        takeWhile_signedText]
    subst sameTime
    have sameRest := List.append_cancel_left same
    exact ⟨rfl, (List.cons.inj sameRest).2⟩
  · rintro ⟨rfl, rfl⟩
    rfl

/-! ## Requests -/

/-- What the webhook receives: two headers and the body. -/
structure WebhookRequest (Signature : Type) where
  timestamp : Int
  raw : List UInt8
  signature : Signature
  deriving Repr, DecidableEq

/-- The secret and the encoding that simulator and webhook share. -/
structure Webhook (Signature : Type) where
  /-- The hexadecimal HMAC-SHA256 under `webhook_secret`. -/
  hmac : List UInt8 → Signature
  /-- `json.dumps(payload).encode()`. -/
  encode : CallbackPayload → List UInt8
  /-- The body as a `Callback`, where it is one. -/
  decode : List UInt8 → Option CallbackPayload

/-- How the webhook answers a request that it does not hand on. -/
inductive WebhookRefusal where
  | invalidRequest
  | payloadTooLarge
  | invalidSignature
  deriving Repr, DecidableEq

def WebhookRefusal.status : WebhookRefusal → Nat
  | .invalidRequest => 422
  | .payloadTooLarge => 413
  | .invalidSignature => 401

namespace Webhook

variable (self : Webhook Signature)

/-- The signature is the one of the request's own text. -/
def Verifies (request : WebhookRequest Signature) : Prop :=
  request.signature = self.hmac (signedText request.timestamp request.raw)

instance [DecidableEq Signature] (request : WebhookRequest Signature) :
    Decidable (self.Verifies request) :=
  inferInstanceAs (Decidable (_ = _))

/-- The checks of `callback(request, body, ...)` before the service is called. -/
def check
    [DecidableEq Signature]
    (request : WebhookRequest Signature)
    (time : Int) : Except WebhookRefusal CallbackPayload := do
  let body ← require (self.decode request.raw) .invalidRequest
  ensure (request.raw.length ≤ 16384) .payloadTooLarge
  ensure
    (|time - request.timestamp * second| ≤ 300 * second ∧
      self.Verifies request)
    .invalidSignature
  pure body

/-- The request that `simulate_one` sends at the given time. -/
def sign
    (payload : CallbackPayload)
    (time : Int) : WebhookRequest Signature where
  timestamp := time.tdiv second
  raw := self.encode payload
  signature :=
    self.hmac (signedText (time.tdiv second) (self.encode payload))

/-- A body that is read again is the payload that was written. -/
def Faithful : Prop :=
  ∀ payload read,
    self.decode (self.encode payload) = some read →
    read = payload

variable {self}

/-- What an accepted request has shown. -/
theorem check_eq_ok
    [DecidableEq Signature]
    {request : WebhookRequest Signature}
    {time : Int}
    {payload : CallbackPayload} :
    self.check request time = .ok payload ↔
      self.decode request.raw = some payload ∧
        request.raw.length ≤ 16384 ∧
        |time - request.timestamp * second| ≤ 300 * second ∧
        self.Verifies request := by
  simp only [check, bind_eq_ok, require_eq_ok, ensure_eq_ok, pure_eq_ok]
  constructor
  · rintro ⟨body, isBody, _, short, _, ⟨near, verifies⟩, rfl⟩
    exact ⟨isBody, short, near, verifies⟩
  · rintro ⟨isBody, short, near, verifies⟩
    exact ⟨payload, isBody, (), short, (), ⟨near, verifies⟩, rfl⟩

end Webhook

/-! ## Who writes payments and callbacks -/

/-- Payments and callbacks are as before. -/
structure SamePayments (db after : Database Hash) : Prop where
  callbacks : after.paymentCallbacks = db.paymentCallbacks
  payments : after.paymentAttempts = db.paymentAttempts

namespace SamePayments

theorem refl (db : Database Hash) : SamePayments db db :=
  ⟨rfl, rfl⟩

theorem trans
    {first second third : Database Hash}
    (early : SamePayments first second)
    (late : SamePayments second third) :
    SamePayments first third :=
  ⟨late.callbacks.trans early.callbacks, late.payments.trans early.payments⟩

end SamePayments

theorem samePayments_of_event
    {id aggregate : Uuid}
    {message : Message}
    {db after : Database Hash}
    (accepted : event id aggregate message db = .ok after) :
    SamePayments db after := by
  obtain ⟨outbox, _, rfl⟩ := event_eq_ok.mp accepted
  exact ⟨rfl, rfl⟩

theorem samePayments_of_placeHold
    {hold : Hold}
    {order : Order}
    {rows : List EventSeat}
    {seats : List SeatId}
    {announcement : Uuid}
    {db after : Database Hash}
    (accepted :
      placeHold hold order rows seats announcement db = .ok after) :
    SamePayments db after := by
  simp only [placeHold, placeRows, bind_assoc, pure_bind, bind_eq_ok,
    unique_eq_ok] at accepted
  obtain ⟨_, _, _, _, _, _, _, _, announced⟩ := accepted
  have same := samePayments_of_event announced
  exact ⟨same.callbacks, same.payments⟩

theorem samePayments_of_releaseInTransaction
    {order : Order}
    {state : HoldStatus}
    {announcement : Uuid}
    {db after : Database Hash}
    (accepted :
      releaseInTransaction order state announcement db = .ok after) :
    SamePayments db after := by
  have same := samePayments_of_event accepted
  exact ⟨same.callbacks, same.payments⟩

theorem samePayments_of_applyDecision
    {decision : Decision}
    {payment : PaymentAttempt}
    {order : Order}
    {hold : Hold}
    {seats : List EventSeat}
    {uuid4 : Nat → Uuid}
    {db after : Database Hash}
    (accepted :
      applyDecision decision payment order hold seats uuid4 db =
        .ok after) :
    SamePayments db after := by
  cases decision with
  | unchanged =>
      simp only [applyDecision, pure_eq_ok] at accepted
      exact accepted ▸ .refl db
  | failed =>
      simp only [applyDecision, failOrder, bind_eq_ok,
        pure_eq_ok] at accepted
      obtain ⟨_, released, rfl⟩ := accepted
      have same := samePayments_of_releaseInTransaction released
      exact ⟨same.callbacks, same.payments⟩
  | book =>
      simp only [applyDecision, bookOrder, bind_eq_ok] at accepted
      obtain ⟨_, _, announced⟩ := accepted
      have same := samePayments_of_event announced
      exact ⟨same.callbacks, same.payments⟩
  | refund =>
      simp only [applyDecision, refundOrder, bind_eq_ok] at accepted
      obtain ⟨_, released, announced⟩ := accepted
      have same := samePayments_of_event announced
      exact (samePayments_of_releaseInTransaction released).trans
        ⟨same.callbacks, same.payments⟩

theorem samePayments_of_consumeEvent
    {envelope : Envelope}
    {ambient : Ambient}
    {db after : Database Hash}
    (accepted : consumeEvent envelope ambient db = .ok after) :
    SamePayments db after := by
  simp only [consumeEvent, bind_eq_ok] at accepted
  obtain ⟨_, _, rest⟩ := accepted
  split at rest
  · simp only [pure_eq_ok] at rest
    exact rest ▸ .refl db
  · cases message : envelope.message with
    | seatsChanged eventId seats =>
        simp only [message, requestRefresh, bind_eq_ok,
          pure_eq_ok] at rest
        obtain ⟨_, _, rfl⟩ := rest
        exact ⟨rfl, rfl⟩
    | orderPaid orderId =>
        simp only [message, fulfilOrder, bind_eq_ok] at rest
        obtain ⟨_, _, _, _, announced⟩ := rest
        have same := samePayments_of_event announced
        exact ⟨same.callbacks, same.payments⟩
    | refundRequested paymentId orderId =>
        simp only [message, pure_eq_ok] at rest
        exact rest ▸ ⟨rfl, rfl⟩
    | ticketsIssued orderId =>
        simp only [message, pure_eq_ok] at rest
        exact rest ▸ ⟨rfl, rfl⟩
    | unknown eventType =>
        simp only [message, throw_eq_ok] at rest

/-- No callback is recorded, payments stay, and new ones are pending. -/
structure PaymentsFramed (db after : Database Hash) : Prop where
  callbacks : after.paymentCallbacks = db.paymentCallbacks
  kept :
    ∀ {id payment},
      db.paymentAttempts.find? id = some payment →
      after.paymentAttempts.find? id = some payment
  opened :
    ∀ {id payment},
      after.paymentAttempts.find? id = some payment →
      db.paymentAttempts.find? id = some payment ∨
        payment.status = .pending

theorem SamePayments.framed
    {db after : Database Hash}
    (same : SamePayments db after) :
    PaymentsFramed db after := by
  refine ⟨same.callbacks, ?_, ?_⟩
  · intro id payment found
    rw [same.payments]
    exact found
  · intro id payment found
    rw [same.payments] at found
    exact Or.inl found

theorem framed_of_initiatePaymentBody
    {actor : Actor}
    {orderId : Uuid}
    {outcome : Outcome}
    {delaySeconds duplicates : Nat}
    {ambient : Ambient}
    {response : Response}
    {db after : Database Hash}
    (accepted :
      PostgresReservations.initiatePaymentBody actor orderId outcome
        delaySeconds duplicates ambient db = .ok (response, after)) :
    PaymentsFramed db after := by
  simp only [PostgresReservations.initiatePaymentBody,
    bind_eq_ok] at accepted
  obtain ⟨_, _, rest⟩ := accepted
  split at rest
  · simp only [pure_eq_ok, Prod.mk.injEq] at rest
    obtain ⟨_, rfl⟩ := rest
    exact (SamePayments.refl db).framed
  · simp only [bind_eq_ok, unique_eq_ok, pure_eq_ok,
      Prod.mk.injEq] at rest
    obtain ⟨_, _, _, _, _, _, payments, inserted, _, rfl⟩ := rest
    refine ⟨rfl, ?_, ?_⟩
    · intro id payment found
      have isId : payment.id = id := Table.key_of_find? found
      rw [← isId]
      exact Table.find?_key
        ((Table.mem_of_insert? inserted).mpr
          (Or.inl (Table.mem_of_find? found)))
    · intro id payment found
      rcases (Table.mem_of_insert? inserted).mp
          (Table.mem_of_find? found) with old | rfl
      · have isId : payment.id = id := Table.key_of_find? found
        rw [← isId]
        exact Or.inl (Table.find?_key old)
      · exact Or.inr rfl

/-- Whether the call is a callback of the webhook. -/
def Call.isCallback : Call Hash → Bool
  | .callback _ => true
  | _ => false

section Bodies

variable [DecidableEq Hash]

theorem framed_of_idempotent
    {digest : Request → Hash}
    {actor : Actor}
    {operation : Operation}
    {key : IdempotencyKey}
    {request : Request}
    {body : Database Hash → Except Error (Response × Database Hash)}
    {db after : Database Hash}
    {response : Response}
    (bodyFramed :
      ∀ {before response next},
        body before = .ok (response, next) →
        PaymentsFramed before next)
    (accepted :
      idempotent digest actor operation key request body db =
        .ok (response, after)) :
    PaymentsFramed db after := by
  rcases idempotent_cases accepted with
    rfl | ⟨_, written, _, bodyAccepted, rfl⟩
  · exact (SamePayments.refl _).framed
  · have framed := bodyFramed bodyAccepted
    exact ⟨framed.callbacks, framed.kept, framed.opened⟩

namespace PostgresReservations

variable
  {self : PostgresReservations Hash}
  {ambient : Ambient}
  {db after : Database Hash}

/-- Only callbacks record callbacks and restate payments. -/
theorem framed_of_body
    {call : Call Hash}
    {result : Result}
    (other : call.isCallback = false)
    (accepted : self.body call ambient db = .ok (result, after)) :
    PaymentsFramed db after := by
  cases call with
  | callback => cases other
  | consumeEvent envelope =>
      simp only [body, bind_eq_ok, pure_eq_ok, Prod.mk.injEq] at accepted
      obtain ⟨_, consumed, _, rfl⟩ := accepted
      exact (samePayments_of_consumeEvent consumed).framed
  | release actor holdId =>
      simp only [body, release, bind_eq_ok, pure_eq_ok,
        Prod.mk.injEq] at accepted
      obtain ⟨_, ⟨_, _, _, _, released⟩, _, rfl⟩ := accepted
      exact (samePayments_of_releaseInTransaction released).framed
  | reserve actor eventId seatIds key =>
      simp only [body, reserve, bind_eq_ok, pure_eq_ok, Prod.mk.injEq,
        Prod.exists] at accepted
      obtain ⟨_, _, ⟨_, _, framed⟩, _, rfl⟩ := accepted
      apply framed_of_idempotent _ framed
      intro before response next bodyAccepted
      simp only [reserveBody, bind_eq_ok, pure_eq_ok,
        Prod.mk.injEq] at bodyAccepted
      obtain ⟨_, _, _, _, _, _, _, _, _, placed, _, rfl⟩ := bodyAccepted
      exact (samePayments_of_placeHold placed).framed
  | persistReservationCommand payload response =>
      simp only [body, bind_eq_ok, pure_eq_ok, Prod.mk.injEq,
        Prod.exists] at accepted
      obtain ⟨_, _, accepted, _, rfl⟩ := accepted
      rcases persist_cases accepted with rfl | ⟨_, bodyAccepted⟩
      · exact (SamePayments.refl _).framed
      · obtain ⟨_, _, _, _, _, _, _, _, written, placed, _, _, rfl⟩ :=
          placed_of_persistBody bodyAccepted
        have framed := (samePayments_of_placeHold written).framed
        exact ⟨framed.callbacks, framed.kept, framed.opened⟩
  | checkout actor holdId key =>
      simp only [body, bind_eq_ok, pure_eq_ok, Prod.mk.injEq,
        Prod.exists] at accepted
      obtain ⟨_, _, framed, _, rfl⟩ := accepted
      apply framed_of_idempotent _ framed
      intro before response next bodyAccepted
      simp only [checkoutBody, bind_eq_ok, pure_eq_ok,
        Prod.mk.injEq] at bodyAccepted
      obtain ⟨_, _, _, _, _, _, _, rfl⟩ := bodyAccepted
      exact (SamePayments.refl _).framed
  | expireBatch limit locked =>
      simp only [body, expireBatch, bind_eq_ok, pure_eq_ok, Prod.mk.injEq,
        Prod.exists] at accepted
      obtain ⟨_, _, ⟨_, _, _, released, _, rfl⟩, _, rfl⟩ := accepted
      apply SamePayments.framed
      apply foldlM_invariant _ (SamePayments.refl db) released
      intro before indexed next _ same accepted
      exact same.trans (samePayments_of_releaseInTransaction accepted)
  | initiatePayment actor orderId key outcome delaySeconds duplicates =>
      simp only [body, bind_eq_ok, pure_eq_ok, Prod.mk.injEq,
        Prod.exists] at accepted
      obtain ⟨_, _, framed, _, rfl⟩ := accepted
      exact framed_of_idempotent framed_of_initiatePaymentBody framed

end PostgresReservations

end Bodies

/-! ## Terms of a payment -/

/-- Payments and orders stay, and change at most their status. -/
structure TermsKept (db after : Database Hash) : Prop where
  payments :
    ∀ {id payment},
      db.paymentAttempts.find? id = some payment →
      ∃ status,
        after.paymentAttempts.find? id =
          some { payment with status := status }
  orders :
    ∀ {id order},
      db.orders.find? id = some order →
      ∃ status, after.orders.find? id = some { order with status := status }

namespace TermsKept

theorem refl (db : Database Hash) : TermsKept db db :=
  ⟨fun found => ⟨_, found⟩, fun found => ⟨_, found⟩⟩

theorem trans
    {first second third : Database Hash}
    (early : TermsKept first second)
    (late : TermsKept second third) :
    TermsKept first third := by
  refine ⟨?_, ?_⟩
  · intro id payment found
    obtain ⟨_, middle⟩ := early.payments found
    obtain ⟨status, last⟩ := late.payments middle
    exact ⟨status, last⟩
  · intro id order found
    obtain ⟨_, middle⟩ := early.orders found
    obtain ⟨status, last⟩ := late.orders middle
    exact ⟨status, last⟩

theorem ordersOf
    {holdStatus : Hold → HoldStatus}
    {orderStatus : Order → OrderStatus}
    {reseat : EventSeat → EventSeat}
    {db after : Database Hash}
    (revised : Revised holdStatus orderStatus reseat db after)
    {id : Uuid}
    {order : Order}
    (found : db.orders.find? id = some order) :
    ∃ status,
      after.orders.find? id = some { order with status := status } :=
  ⟨orderStatus order, by rw [revised.orders, found, Option.map_some]⟩

theorem paymentsOf
    {payment : PaymentAttempt}
    {outcome : Outcome}
    {db after : Database Hash}
    (restated : PaymentRestated payment outcome db after)
    {id : Uuid}
    {row : PaymentAttempt}
    (found : db.paymentAttempts.find? id = some row) :
    ∃ status,
      after.paymentAttempts.find? id =
        some { row with status := status } := by
  rw [restated, found, Option.map_some]
  by_cases own : row.id = payment.id
  · exact ⟨outcome.status, by rw [if_pos own]⟩
  · exact ⟨row.status, by rw [if_neg own]⟩

theorem samePayments
    {db after : Database Hash}
    (same : after.paymentAttempts = db.paymentAttempts)
    {id : Uuid}
    {row : PaymentAttempt}
    (found : db.paymentAttempts.find? id = some row) :
    ∃ status,
      after.paymentAttempts.find? id =
        some { row with status := status } := by
  rw [same]
  exact ⟨row.status, found⟩

theorem of_change
    {now : Int}
    {db after : Database Hash}
    (change : Change now db after) :
    TermsKept db after := by
  cases change with
  | bookkeeping _ revised commerce =>
      exact ⟨samePayments commerce.payments, ordersOf revised⟩
  | placed _ order _ _ _ placed =>
      refine ⟨samePayments placed.commerce.payments, ?_⟩
      intro id row found
      refine ⟨row.status, ?_⟩
      rw [placed.orders, if_neg, found]
      intro isNew
      rw [isNew, placed.orderFresh] at found
      cases found
  | released _ _ _ _ _ revised commerce =>
      exact ⟨samePayments commerce.payments, ordersOf revised⟩
  | paymentOpened payment _ fresh _ _ _ _ revised _ _ payments =>
      refine ⟨?_, ordersOf revised⟩
      intro id row found
      refine ⟨row.status, ?_⟩
      rw [payments, if_neg, found]
      intro isNew
      rw [isNew, fresh] at found
      cases found
  | booked _ _ _ _ _ _ _ _ _ revised payments =>
      exact ⟨paymentsOf payments, ordersOf revised⟩
  | refunded _ _ _ _ _ _ _ _ revised _ payments =>
      exact ⟨paymentsOf payments, ordersOf revised⟩
  | failed _ _ _ _ _ _ _ revised _ _ payments =>
      exact ⟨paymentsOf payments, ordersOf revised⟩
  | noted _ _ _ _ _ _ _ revised _ _ payments =>
      exact ⟨paymentsOf payments, ordersOf revised⟩
  | fulfilled _ _ _ _ revised commerce =>
      exact ⟨samePayments commerce.payments, ordersOf revised⟩
  | refundCompleted _ _ revised _ payments =>
      exact ⟨samePayments payments, ordersOf revised⟩

theorem of_changes
    {now : Int}
    {db after : Database Hash}
    (changes : Changes now db after) :
    TermsKept db after := by
  induction changes with
  | refl => exact .refl db
  | tail _ change inductionHypothesis =>
      exact inductionHypothesis.trans (of_change change)

end TermsKept

/-- The payload that `simulate_one` makes of a payment and its order. -/
def simulatedPayload
    (payment : PaymentAttempt)
    (order : Order) : CallbackPayload where
  callbackId := payment.id
  paymentId := payment.id
  orderId := payment.orderId
  amount := order.total
  currency := order.currency
  outcome := payment.outcome

/-- The payload is the simulator's for a payment of the store. -/
def Database.Simulates
    (db : Database Hash)
    (payload : CallbackPayload) : Prop :=
  ∃ payment order,
    db.paymentAttempts.find? payment.id = some payment ∧
      db.orders.find? payment.orderId = some order ∧
      payload = simulatedPayload payment order

theorem Database.Simulates.kept
    {payload : CallbackPayload}
    {db after : Database Hash}
    (kept : TermsKept db after)
    (simulates : db.Simulates payload) :
    after.Simulates payload := by
  obtain ⟨payment, order, paymentFound, orderFound, isPayload⟩ := simulates
  obtain ⟨paymentStatus, paymentAfter⟩ := kept.payments paymentFound
  obtain ⟨orderStatus, orderAfter⟩ := kept.orders orderFound
  exact ⟨{ payment with status := paymentStatus },
    { order with status := orderStatus }, paymentAfter, orderAfter,
    isPayload⟩

/-! ## Callbacks of the simulator -/

/-- The payment has its own outcome, and its callback is recorded. -/
def Database.Delivered
    (digest : Request → Hash)
    (db : Database Hash)
    (id : Uuid) : Prop :=
  ∃ payment order callback,
    db.paymentAttempts.find? id = some payment ∧
      db.orders.find? payment.orderId = some order ∧
      payment.status = payment.outcome.status ∧
      db.paymentCallbacks.find? id = some callback ∧
      callback.payloadHash =
        digest (.callback (simulatedPayload payment order))

/--
A callback is recorded for payments that have their own outcome, and all
others are pending.
-/
structure CallbacksOwn
    (digest : Request → Hash)
    (db : Database Hash) : Prop where
  recorded :
    ∀ id, db.paymentCallbacks.find? id ≠ none → db.Delivered digest id
  pending :
    ∀ {id payment},
      db.paymentAttempts.find? id = some payment →
      db.paymentCallbacks.find? id = none →
      payment.status = .pending

theorem Database.Delivered.framed
    {digest : Request → Hash}
    {id : Uuid}
    {db after : Database Hash}
    (framed : PaymentsFramed db after)
    (kept : TermsKept db after)
    (delivered : db.Delivered digest id) :
    after.Delivered digest id := by
  obtain ⟨payment, order, callback, found, orderFound, settled, recorded,
    sameHash⟩ := delivered
  obtain ⟨_, orderAfter⟩ := kept.orders orderFound
  refine ⟨payment, _, callback, framed.kept found, orderAfter, settled, ?_,
    sameHash⟩
  rw [framed.callbacks]
  exact recorded

theorem CallbacksOwn.framed
    {digest : Request → Hash}
    {db after : Database Hash}
    (own : CallbacksOwn digest db)
    (framed : PaymentsFramed db after)
    (kept : TermsKept db after) :
    CallbacksOwn digest after := by
  refine ⟨?_, ?_⟩
  · intro id recorded
    rw [framed.callbacks] at recorded
    exact (own.recorded id recorded).framed framed kept
  · intro id payment found unrecorded
    rw [framed.callbacks] at unrecorded
    rcases framed.opened found with old | isPending
    · exact own.pending old unrecorded
    · exact isPending

/-- The error is a failure that the API reports as such. -/
def Error.isFailure : Error → Prop
  | .failure _ => True
  | _ => False

theorem avoids_unique
    {Value : Type}
    (inserted : Option Value) :
    Avoids Error.isFailure (unique inserted) := by
  apply avoids_require
  exact id

theorem avoids_event
    (id aggregate : Uuid)
    (message : Message)
    (db : Database Hash) :
    Avoids Error.isFailure (event id aggregate message db) :=
  (avoids_unique _).bind fun _ _ => avoids_pure _

theorem avoids_releaseInTransaction
    (order : Order)
    (state : HoldStatus)
    (announcement : Uuid)
    (db : Database Hash) :
    Avoids Error.isFailure
      (releaseInTransaction order state announcement db) :=
  avoids_event _ _ _ _

theorem avoids_insertBooking
    (bookings : Table Booking)
    (booking : Booking) :
    Avoids Error.isFailure (insertBooking bookings booking) := by
  unfold insertBooking
  refine Avoids.bind ?_ fun _ _ => avoids_unique _
  apply avoids_ensure
  exact id

theorem avoids_applyDecision
    (decision : Decision)
    (payment : PaymentAttempt)
    (order : Order)
    (hold : Hold)
    (seats : List EventSeat)
    (uuid4 : Nat → Uuid)
    (db : Database Hash) :
    Avoids Error.isFailure
      (applyDecision decision payment order hold seats uuid4 db) := by
  cases decision with
  | unchanged => exact avoids_pure db
  | failed =>
      exact (avoids_releaseInTransaction _ _ _ _).bind
        fun _ _ => avoids_pure _
  | book =>
      exact (avoids_foldlM avoids_insertBooking _ _).bind
        fun _ _ => avoids_event _ _ _ _
  | refund =>
      exact (avoids_releaseInTransaction _ _ _ _).bind
        fun _ _ => avoids_event _ _ _ _

/-- Deciding a callback raises no business failure. -/
theorem avoids_settle
    (payment : PaymentAttempt)
    (order : Order)
    (payload : CallbackPayload)
    (ambient : Ambient)
    (db : Database Hash) :
    Avoids Error.isFailure (settle payment order payload ambient db) := by
  unfold settle
  refine Avoids.bind ?_ ?_
  · apply avoids_require
    exact id
  intro hold _
  refine (avoids_applyDecision _ _ _ _ _ _ _).bind ?_
  intro applied _
  exact (avoids_event _ _ _ _).bind fun _ _ => avoids_pure _

/-- A decided callback restates its payment and nothing else of them. -/
theorem samePayments_of_settle
    {payment : PaymentAttempt}
    {order : Order}
    {payload : CallbackPayload}
    {ambient : Ambient}
    {decision : Decision}
    {db after : Database Hash}
    (accepted :
      settle payment order payload ambient db = .ok (decision, after)) :
    after.paymentCallbacks = db.paymentCallbacks ∧
      PaymentRestated payment payload.outcome db after := by
  simp only [settle, bind_eq_ok, pure_eq_ok, Prod.mk.injEq] at accepted
  obtain ⟨_, _, _, applied, _, announced, _, rfl⟩ := accepted
  have same :=
    (samePayments_of_applyDecision applied).trans
      (samePayments_of_event announced)
  refine ⟨same.callbacks, ?_⟩
  intro id
  rw [same.payments, Table.find?_modify]
  simp only [decide_eq_true_eq]

section Simulated

variable
  [DecidableEq Hash]
  {self : PostgresReservations Hash}
  {payload : CallbackPayload}
  {ambient : Ambient}
  {db after : Database Hash}

/-- A callback of the simulator that finds a record. -/
theorem callback_eq_of_some
    {payment : PaymentAttempt}
    {order : Order}
    {previous : PaymentCallback Hash}
    (found : db.paymentAttempts.find? payment.id = some payment)
    (orderFound : db.orders.find? payment.orderId = some order)
    (recorded : db.paymentCallbacks.find? payment.id = some previous) :
    self.callback (simulatedPayload payment order) ambient db =
      ensure
          (previous.payloadHash =
            self.digest (.callback (simulatedPayload payment order)))
          (fail .callbackMismatch) >>=
        fun _ => pure (.duplicate, db) := by
  have isOrder : order.id = payment.orderId := Table.key_of_find? orderFound
  unfold PostgresReservations.callback
  simp only [simulatedPayload, found, require_some, orderFound, ok_bind]
  rw [ensure_bind_of_true (by simp [isOrder]), recorded]

/-- A callback of the simulator that finds no record. -/
theorem callback_eq_of_none
    {payment : PaymentAttempt}
    {order : Order}
    (found : db.paymentAttempts.find? payment.id = some payment)
    (orderFound : db.orders.find? payment.orderId = some order)
    (unrecorded : db.paymentCallbacks.find? payment.id = none)
    (unsettled : payment.status ≠ .succeeded) :
    self.callback (simulatedPayload payment order) ambient db =
      unique (db.paymentCallbacks.insert? {
          id := payment.id
          paymentId := payment.id
          payloadHash :=
            self.digest (.callback (simulatedPayload payment order)) }) >>=
        fun callbacks =>
          settle payment order (simulatedPayload payment order) ambient
              { db with paymentCallbacks := callbacks } >>=
            fun settled => pure (.decided settled.1, settled.2) := by
  have isOrder : order.id = payment.orderId := Table.key_of_find? orderFound
  unfold PostgresReservations.callback
  simp only [simulatedPayload, found, require_some, orderFound, ok_bind]
  rw [ensure_bind_of_true (by simp [isOrder]), unrecorded]
  simp only [if_neg unsettled]

/-- A callback that is recorded already leaves the store as it is. -/
theorem callback_of_recorded
    (own : CallbacksOwn self.digest db)
    (simulates : db.Simulates payload)
    (recorded : db.paymentCallbacks.find? payload.paymentId ≠ none) :
    self.callback payload ambient db = .ok (.duplicate, db) := by
  obtain ⟨payment, order, found, orderFound, rfl⟩ := simulates
  obtain ⟨row, rowOrder, callback, rowFound, rowOrderFound, _, isRecorded,
    sameHash⟩ := own.recorded _ recorded
  have isRow : row = payment := by
    rw [simulatedPayload, found] at rowFound
    exact (Option.some.inj rowFound).symm
  subst isRow
  have isOrder : rowOrder = order := by
    rw [orderFound] at rowOrderFound
    exact (Option.some.inj rowOrderFound).symm
  subst isOrder
  rw [callback_eq_of_some found orderFound isRecorded]
  exact ensure_bind_of_true sameHash _

/-- The first callback of a payment raises no business failure. -/
theorem avoids_callback
    (own : CallbacksOwn self.digest db)
    (simulates : db.Simulates payload)
    (unrecorded : db.paymentCallbacks.find? payload.paymentId = none) :
    Avoids Error.isFailure (self.callback payload ambient db) := by
  obtain ⟨payment, order, found, orderFound, rfl⟩ := simulates
  have unsettled : payment.status ≠ .succeeded := by
    rw [own.pending found unrecorded]
    simp
  rw [callback_eq_of_none found orderFound unrecorded unsettled]
  refine (avoids_unique _).bind ?_
  intro callbacks _
  exact (avoids_settle _ _ _ _ _).bind fun _ _ => avoids_pure _

/-- What the first callback of a payment writes to the two tables. -/
theorem restated_of_callback
    {payment : PaymentAttempt}
    {order : Order}
    {status : CallbackStatus}
    (found : db.paymentAttempts.find? payment.id = some payment)
    (orderFound : db.orders.find? payment.orderId = some order)
    (unrecorded : db.paymentCallbacks.find? payment.id = none)
    (unsettled : payment.status ≠ .succeeded)
    (accepted :
      self.callback (simulatedPayload payment order) ambient db =
        .ok (status, after)) :
    (∃ decision, status = .decided decision) ∧
      PaymentRestated payment payment.outcome db after ∧
      ∀ id,
        after.paymentCallbacks.find? id =
          if id = payment.id then
            some {
              id := payment.id
              paymentId := payment.id
              payloadHash :=
                self.digest (.callback (simulatedPayload payment order)) }
          else
            db.paymentCallbacks.find? id := by
  rw [callback_eq_of_none found orderFound unrecorded unsettled] at accepted
  simp only [bind_eq_ok, unique_eq_ok, pure_eq_ok, Prod.mk.injEq] at accepted
  obtain ⟨callbacks, inserted, settled, isSettled, isStatus, rfl⟩ := accepted
  obtain ⟨sameCallbacks, restated⟩ := samePayments_of_settle isSettled
  refine ⟨⟨_, isStatus.symm⟩, restated, ?_⟩
  intro id
  rw [sameCallbacks]
  exact Table.find?_of_insert? inserted id

/-- The first callback of a payment settles it to its own outcome. -/
theorem callback_of_unrecorded
    {status : CallbackStatus}
    (own : CallbacksOwn self.digest db)
    (simulates : db.Simulates payload)
    (unrecorded : db.paymentCallbacks.find? payload.paymentId = none)
    (kept : TermsKept db after)
    (accepted : self.callback payload ambient db = .ok (status, after)) :
    (∃ decision, status = .decided decision) ∧
      CallbacksOwn self.digest after ∧
      after.Delivered self.digest payload.paymentId ∧
      ∀ id,
        db.Delivered self.digest id →
        after.Delivered self.digest id := by
  obtain ⟨payment, order, found, orderFound, rfl⟩ := simulates
  have unrecorded : db.paymentCallbacks.find? payment.id = none := unrecorded
  have isPending := own.pending found unrecorded
  obtain ⟨isDecided, restated, callbacks⟩ :=
    restated_of_callback found orderFound unrecorded
      (by rw [isPending]; simp) accepted
  obtain ⟨orderStatus, orderAfter⟩ := kept.orders orderFound
  have delivered : after.Delivered self.digest payment.id := by
    have recorded := callbacks payment.id
    rw [if_pos rfl] at recorded
    refine ⟨{ payment with status := payment.outcome.status },
      { order with status := orderStatus }, _, ?_, orderAfter, rfl, recorded,
      rfl⟩
    rw [restated, found, Option.map_some, if_pos rfl]
  -- Every other payment and callback is as before.
  have elsewhere {id : Uuid} (other : id ≠ payment.id) :
      after.paymentAttempts.find? id = db.paymentAttempts.find? id := by
    rw [restated]
    cases isRow : db.paymentAttempts.find? id with
    | none => rfl
    | some row =>
        have isId : row.id = id := Table.key_of_find? isRow
        rw [Option.map_some, if_neg (isId ▸ other)]
  have stays (id : Uuid) (earlier : db.Delivered self.digest id) :
      after.Delivered self.digest id := by
    by_cases isOwn : id = payment.id
    · exact isOwn ▸ delivered
    · obtain ⟨row, rowOrder, callback, rowFound, rowOrderFound, settled,
        recorded, sameHash⟩ := earlier
      obtain ⟨_, rowOrderAfter⟩ := kept.orders rowOrderFound
      refine ⟨row, _, callback, ?_, rowOrderAfter, settled, ?_, sameHash⟩
      · rw [elsewhere isOwn]
        exact rowFound
      · rw [callbacks, if_neg isOwn]
        exact recorded
  refine ⟨isDecided, ⟨?_, ?_⟩, delivered, stays⟩
  · intro id recorded
    by_cases isOwn : id = payment.id
    · exact isOwn ▸ delivered
    · rw [callbacks, if_neg isOwn] at recorded
      exact stays id (own.recorded id recorded)
  · intro id row rowFound rowUnrecorded
    by_cases isOwn : id = payment.id
    · rw [callbacks, if_pos isOwn] at rowUnrecorded
      cases rowUnrecorded
    · rw [elsewhere isOwn] at rowFound
      rw [callbacks, if_neg isOwn] at rowUnrecorded
      exact own.pending rowFound rowUnrecorded

end Simulated

end FlashTicketing
