import FlashTicketing.Transition

namespace FlashTicketing

open Transition

/-!
# Admission of holds

`RequestInstrumentation` counts the holds that have been admitted and not yet
answered.  All requests share one event loop: the code between two awaits runs
without interruption, and at each await any other request may go on.  What the
application does in between is left open; it may send nothing, send after a
failure, raise at any await or be cancelled there.
-/

/-- The two settings behind `hold_admission_limit`. -/
inductive ReservationMode where
  | postgres
  | redisFirst
  deriving Repr, DecidableEq

structure AdmissionSettings where
  reservationMode : ReservationMode
  reserveConcurrency : Nat
  redisReserveConcurrency : Nat

def AdmissionSettings.holdAdmissionLimit (config : AdmissionSettings) : Nat :=
  match config.reservationMode with
  | .redisFirst => config.redisReserveConcurrency
  | .postgres => config.reserveConcurrency

inductive ScopeType where
  | http
  | websocket
  | lifespan
  deriving Repr, DecidableEq

structure Scope where
  type : ScopeType
  method : String
  path : String

/-- `reservation`. -/
def Scope.reservation (scope : Scope) : Bool :=
  decide (scope.method = "POST" ∧ scope.path = "/v1/holds")

/-- What a call does with its request. -/
inductive Admission where
  /-- Not `http`: the application gets the raw channels. -/
  | bypassed
  /-- Another request than a hold. -/
  | uncounted
  /-- `503` with `ADMISSION_FULL`. -/
  | rejected
  | admitted
  deriving Repr, DecidableEq

inductive CloseReason where
  | clientDisconnect
  | serverSendError
  deriving Repr, DecidableEq

/-- The local state of one call of the middleware. -/
structure HttpCall where
  admission : Admission
  /-- The local `admitted`. -/
  admitted : Bool := false
  responseHeadersEmitted : Bool := false
  closeReason : Option CloseReason := none
  /-- The `finally` block has run. -/
  ended : Bool := false
  /-- How often the call has decremented the counter. -/
  decrements : Nat := 0

/-- `reserve_inflight` and all calls so far. -/
structure AdmissionWorld where
  reserveInflight : Int := 0
  calls : List HttpCall := []

inductive ReceivedMessage where
  | request
  | disconnect

inductive SentMessage where
  | responseStart
  | responseBody

/-- How the awaited application or response ends. -/
inductive CallEnd where
  | returned
  | raised
  | cancelled

inductive HttpAction where
  | arrive (scope : Scope)
  | receive (slot : Nat) (message : ReceivedMessage)
  | send (slot : Nat) (message : SentMessage)
  | sendRaises (slot : Nat)
  | finish (slot : Nat) (how : CallEnd)

namespace HttpCall

/-- `mark_close(reason)`. -/
def markClose (call : HttpCall) (reason : CloseReason) : HttpCall :=
  match call.closeReason with
  | none => { call with closeReason := some reason }
  | some _ => call

end HttpCall

namespace AdmissionWorld

def setCall
    (world : AdmissionWorld)
    (slot : Nat)
    (call : HttpCall) : AdmissionWorld :=
  { world with calls := world.calls.set slot call }

/-- `release()` of a call. -/
def release
    (world : AdmissionWorld)
    (slot : Nat)
    (call : HttpCall) : AdmissionWorld :=
  if call.admitted then
    { reserveInflight := world.reserveInflight - 1
      calls := world.calls.set slot {
        call with
        admitted := false
        decrements := call.decrements + 1 } }
  else
    world.setCall slot call

/-- The branch that a request takes on arrival. -/
def admission
    (world : AdmissionWorld)
    (config : AdmissionSettings)
    (scope : Scope) : Admission :=
  if scope.type ≠ .http then
    .bypassed
  else if scope.reservation = false then
    .uncounted
  else if world.reserveInflight ≥ config.holdAdmissionLimit then
    .rejected
  else
    .admitted

/-- A call up to its first await. -/
def arrive
    (world : AdmissionWorld)
    (config : AdmissionSettings)
    (scope : Scope) : AdmissionWorld :=
  match world.admission config scope with
  | .admitted => {
      reserveInflight := world.reserveInflight + 1
      calls := world.calls ++ [{ admission := .admitted, admitted := true }] }
  | other => { world with calls := world.calls ++ [{ admission := other }] }

/-- `observed_receive`, after its await. -/
def observedReceive
    (world : AdmissionWorld)
    (slot : Nat)
    (call : HttpCall) : ReceivedMessage → AdmissionWorld
  | .request => world
  | .disconnect => world.setCall slot (call.markClose .clientDisconnect)

/-- `observed_send`, up to its await. -/
def observedSend
    (world : AdmissionWorld)
    (slot : Nat)
    (call : HttpCall) : SentMessage → AdmissionWorld
  | .responseStart =>
      world.release slot { call with responseHeadersEmitted := true }
  | .responseBody => world

/-- Steps of all calls.  A channel may outlive its call. -/
inductive Step (config : AdmissionSettings) (world : AdmissionWorld) :
    HttpAction → AdmissionWorld → Prop where
  | arrive
      (scope : Scope) :
      Step config world (.arrive scope) (world.arrive config scope)
  | receive
      {slot : Nat}
      {call : HttpCall}
      (isCall : world.calls[slot]? = some call)
      (observed : call.admission ≠ .bypassed)
      (message : ReceivedMessage) :
      Step config world (.receive slot message)
        (world.observedReceive slot call message)
  | send
      {slot : Nat}
      {call : HttpCall}
      (isCall : world.calls[slot]? = some call)
      (observed : call.admission ≠ .bypassed)
      (message : SentMessage) :
      Step config world (.send slot message)
        (world.observedSend slot call message)
  | sendRaises
      {slot : Nat}
      {call : HttpCall}
      (isCall : world.calls[slot]? = some call)
      (observed : call.admission ≠ .bypassed) :
      Step config world (.sendRaises slot)
        (world.setCall slot (call.markClose .serverSendError))
  | finish
      {slot : Nat}
      {call : HttpCall}
      (isCall : world.calls[slot]? = some call)
      (running : call.ended = false)
      (how : CallEnd) :
      Step config world (.finish slot how)
        (world.release slot { call with ended := true })

end AdmissionWorld

/-! ## What a call holds -/

namespace HttpCall

/-- Admitted, without a started response, and not ended. -/
def Waiting (call : HttpCall) : Prop :=
  call.admission = .admitted ∧
    call.responseHeadersEmitted = false ∧
    call.ended = false

instance (call : HttpCall) : Decidable call.Waiting :=
  inferInstanceAs (Decidable (_ ∧ _ ∧ _))

/-- The flag says whether the call still waits, and what it has given back. -/
structure Exact (call : HttpCall) : Prop where
  flag : call.admitted = true ↔ call.Waiting
  decrements :
    call.decrements =
      if call.admission = .admitted ∧ ¬ call.Waiting then 1 else 0

variable {call : HttpCall}

theorem exact_arrived
    (admission : Admission)
    (isAdmitted : Bool)
    (decided : isAdmitted = true ↔ admission = .admitted) :
    ({ admission := admission, admitted := isAdmitted } : HttpCall).Exact := by
  constructor
  · simpa [Waiting] using decided
  · simp [Waiting]

theorem admitted_markClose
    (call : HttpCall)
    (reason : CloseReason) :
    (call.markClose reason).admitted = call.admitted := by
  unfold HttpCall.markClose
  split
  · rfl
  · rfl

theorem Exact.markClose
    (exact : call.Exact)
    (reason : CloseReason) :
    (call.markClose reason).Exact := by
  unfold HttpCall.markClose
  split
  · exact ⟨exact.flag, exact.decrements⟩
  · exact exact

/-- The call after `release()`, once it no longer waits. -/
def afterRelease (call : HttpCall) : HttpCall :=
  if call.admitted then
    { call with
      admitted := false
      decrements := call.decrements + 1 }
  else
    call

/-- A call gives its place back when it stops waiting, and only then. -/
theorem Exact.afterRelease
    {later : HttpCall}
    (exact : call.Exact)
    (sameAdmission : later.admission = call.admission)
    (sameFlag : later.admitted = call.admitted)
    (sameDecrements : later.decrements = call.decrements)
    (stopped : ¬ later.Waiting) :
    later.afterRelease.Exact := by
  have decrements := exact.decrements
  unfold HttpCall.afterRelease
  by_cases held : later.admitted = true
  · rw [if_pos held]
    have waiting : call.Waiting := exact.flag.mp (sameFlag ▸ held)
    have wasAdmitted : later.admission = .admitted :=
      sameAdmission.trans waiting.1
    rw [if_neg fun given => given.2 waiting] at decrements
    constructor
    · exact ⟨nofun, fun still => absurd still stopped⟩
    · change later.decrements + 1 = _
      rw [if_pos ⟨wasAdmitted, stopped⟩, sameDecrements, decrements]
  · rw [if_neg held]
    have ended : ¬ call.Waiting := by
      intro waiting
      exact held (sameFlag.trans (exact.flag.mpr waiting))
    constructor
    · exact ⟨fun still => absurd still held,
        fun still => absurd still stopped⟩
    · rw [sameDecrements, decrements, sameAdmission]
      simp [ended, stopped]

end HttpCall

/-! ## The counter -/

namespace AdmissionWorld

/-- The counter is the number of calls that wait, within the limit. -/
structure Counted
    (config : AdmissionSettings)
    (world : AdmissionWorld) : Prop where
  exact : ∀ call ∈ world.calls, call.Exact
  count :
    world.reserveInflight =
      (world.calls.countP fun call => call.admitted : Nat)
  bounded : world.reserveInflight ≤ config.holdAdmissionLimit

variable
  {config : AdmissionSettings}
  {world after : AdmissionWorld}
  {slot : Nat}
  {call later : HttpCall}

/-- One for a call that holds a place. -/
def place (call : HttpCall) : Int :=
  if call.admitted then 1 else 0

/-- Replacing one call moves the count by what the two calls hold. -/
theorem countP_set_call
    (isCall : world.calls[slot]? = some call)
    (later : HttpCall) :
    (((world.calls.set slot later).countP fun call => call.admitted : Nat) :
        Int) =
      (world.calls.countP fun call => call.admitted : Nat) - place call +
        place later := by
  obtain ⟨inside, rfl⟩ := List.getElem?_eq_some_iff.mp isCall
  have positive :
      world.calls[slot].admitted = true →
      0 < world.calls.countP fun call => call.admitted := by
    intro held
    exact List.countP_pos_iff.mpr ⟨_, List.getElem_mem inside, held⟩
  rw [List.countP_set inside]
  unfold place
  split
  · rename_i held
    have := positive held
    split <;> omega
  · split <;> omega

/-- A call that keeps its place, or gives it up together with the count. -/
theorem Counted.replace
    (counted : world.Counted config)
    (isCall : world.calls[slot]? = some call)
    (exact : later.Exact)
    (noMore : place later ≤ place call) :
    Counted config {
      reserveInflight :=
        world.reserveInflight - place call + place later
      calls := world.calls.set slot later } := by
  refine ⟨?_, ?_, ?_⟩
  · intro other member
    rcases List.mem_or_eq_of_mem_set member with old | rfl
    · exact counted.exact other old
    · exact exact
  · rw [countP_set_call isCall, counted.count]
  · have bounded := counted.bounded
    dsimp only
    omega

/-- Changes that leave the flag alone leave the counter alone. -/
theorem Counted.setCall
    (counted : world.Counted config)
    (isCall : world.calls[slot]? = some call)
    (exact : later.Exact)
    (sameFlag : later.admitted = call.admitted) :
    (world.setCall slot later).Counted config := by
  have same : place later = place call := by
    rw [place, sameFlag, place]
  have replaced := counted.replace isCall exact (le_of_eq same)
  rw [same, Int.sub_add_cancel] at replaced
  exact replaced

/-- `release()` of a call that stops waiting. -/
theorem Counted.release
    (counted : world.Counted config)
    (isCall : world.calls[slot]? = some call)
    (sameAdmission : later.admission = call.admission)
    (sameFlag : later.admitted = call.admitted)
    (sameDecrements : later.decrements = call.decrements)
    (stopped : ¬ later.Waiting) :
    (world.release slot later).Counted config := by
  have callExact := counted.exact call (List.mem_of_getElem? isCall)
  have laterExact :=
    callExact.afterRelease sameAdmission sameFlag sameDecrements stopped
  unfold HttpCall.afterRelease at laterExact
  unfold AdmissionWorld.release
  by_cases held : later.admitted = true
  · rw [if_pos held] at laterExact ⊢
    have wasHeld : place call = 1 := by
      rw [place, ← sameFlag, held]
      rfl
    have replaced :=
      counted.replace isCall laterExact (wasHeld ▸ Int.zero_le_ofNat 1)
    rw [wasHeld] at replaced
    simpa [place] using replaced
  · rw [if_neg held] at laterExact ⊢
    exact counted.setCall isCall laterExact sameFlag

theorem counted_empty : Counted config {} :=
  ⟨nofun, rfl, Int.natCast_nonneg _⟩

/-- A call that arrives without a place. -/
theorem Counted.append
    {admission : Admission}
    (counted : world.Counted config)
    (unadmitted : admission ≠ .admitted) :
    Counted config {
      world with calls := world.calls ++ [{ admission := admission }] } where
  exact := by
    intro call member
    rcases List.mem_append.mp member with old | new
    · exact counted.exact call old
    · rw [List.mem_singleton.mp new]
      exact HttpCall.exact_arrived admission false
        ⟨nofun, fun admitted => absurd admitted unadmitted⟩
  count := by simpa using counted.count
  bounded := counted.bounded

theorem admission_eq_admitted
    {scope : Scope} :
    world.admission config scope = .admitted ↔
      scope.type = .http ∧ scope.reservation = true ∧
        world.reserveInflight < config.holdAdmissionLimit := by
  unfold admission
  split
  · rename_i other
    simp [other]
  · split
    · rename_i isHttp unreserved
      simp [unreserved]
    · split
      · rename_i isHttp reserves full
        simpa using fun _ _ => not_lt.mpr full
      · rename_i isHttp reserves room
        simpa using ⟨not_not.mp isHttp, by simpa using reserves,
          not_le.mp room⟩

theorem Counted.arrive
    (counted : world.Counted config)
    (scope : Scope) :
    (world.arrive config scope).Counted config := by
  unfold AdmissionWorld.arrive
  split
  · rename_i isAdmitted
    have room := (admission_eq_admitted.mp isAdmitted).2.2
    refine ⟨?_, ?_, room⟩
    · intro call member
      rcases List.mem_append.mp member with old | new
      · exact counted.exact call old
      · rw [List.mem_singleton.mp new]
        exact HttpCall.exact_arrived .admitted true (by simp)
    · simp [counted.count]
  · rename_i other unadmitted
    exact counted.append unadmitted

theorem Counted.step
    {action : HttpAction}
    (counted : world.Counted config)
    (step : Step config world action after) :
    after.Counted config := by
  cases step with
  | arrive scope => exact counted.arrive scope
  | @receive slot call isCall observed message =>
      have exact := counted.exact call (List.mem_of_getElem? isCall)
      cases message with
      | request => exact counted
      | disconnect =>
          exact counted.setCall isCall (exact.markClose _)
            (call.admitted_markClose _)
  | @send slot call isCall observed message =>
      cases message with
      | responseStart =>
          have stopped :
              ¬ HttpCall.Waiting {
                call with responseHeadersEmitted := true } := by
            intro waiting
            cases waiting.2.1
          exact counted.release isCall rfl rfl rfl stopped
      | responseBody => exact counted
  | @sendRaises slot call isCall observed =>
      have exact := counted.exact call (List.mem_of_getElem? isCall)
      exact counted.setCall isCall (exact.markClose _)
        (call.admitted_markClose _)
  | @finish slot call isCall running how =>
      have stopped : ¬ HttpCall.Waiting { call with ended := true } := by
        intro waiting
        cases waiting.2.2
      exact counted.release isCall rfl rfl rfl stopped

/-! ## Who moves the counter -/

/-- The call that an action belongs to. -/
def owner (world : AdmissionWorld) : HttpAction → Nat
  | .arrive _ => world.calls.length
  | .receive slot _ => slot
  | .send slot _ => slot
  | .sendRaises slot => slot
  | .finish slot _ => slot

/-- Unless it was admitted, the call has left the counter alone. -/
def LeavesAlone
    (world after : AdmissionWorld)
    (slot : Nat) : Prop :=
  ∃ call,
    after.calls[slot]? = some call ∧
      (call.admission ≠ .admitted →
        after.reserveInflight = world.reserveInflight)

theorem getElem?_set_call
    (isCall : world.calls[slot]? = some call)
    (later : HttpCall) :
    (world.calls.set slot later)[slot]? = some later := by
  obtain ⟨inside, _⟩ := List.getElem?_eq_some_iff.mp isCall
  exact List.getElem?_set_self inside

theorem leavesAlone_setCall
    (isCall : world.calls[slot]? = some call)
    (later : HttpCall) :
    LeavesAlone world (world.setCall slot later) slot :=
  ⟨later, getElem?_set_call isCall later, fun _ => rfl⟩

theorem Counted.leavesAlone_release
    (counted : world.Counted config)
    (isCall : world.calls[slot]? = some call)
    (sameAdmission : later.admission = call.admission)
    (sameFlag : later.admitted = call.admitted) :
    LeavesAlone world (world.release slot later) slot := by
  have exact := counted.exact call (List.mem_of_getElem? isCall)
  unfold AdmissionWorld.release
  split
  · rename_i held
    refine ⟨_, getElem?_set_call isCall _, ?_⟩
    intro unadmitted
    have waiting : call.Waiting := exact.flag.mp (sameFlag ▸ held)
    exact absurd (sameAdmission.trans waiting.1) unadmitted
  · exact leavesAlone_setCall isCall later

theorem Counted.leavesAlone
    {action : HttpAction}
    (counted : world.Counted config)
    (step : Step config world action after) :
    LeavesAlone world after (owner world action) := by
  cases step with
  | arrive scope =>
      unfold AdmissionWorld.arrive
      split
      · exact ⟨_, List.getElem?_concat_length, fun other => absurd rfl other⟩
      · exact ⟨_, List.getElem?_concat_length, fun _ => rfl⟩
  | @receive slot call isCall observed message =>
      cases message with
      | request => exact ⟨call, isCall, fun _ => rfl⟩
      | disconnect => exact leavesAlone_setCall isCall _
  | @send slot call isCall observed message =>
      cases message with
      | responseStart => exact counted.leavesAlone_release isCall rfl rfl
      | responseBody => exact ⟨call, isCall, fun _ => rfl⟩
  | @sendRaises slot call isCall observed =>
      exact leavesAlone_setCall isCall _
  | @finish slot call isCall running how =>
      exact counted.leavesAlone_release isCall rfl rfl

/-- A hold is rejected when the counter has reached the limit. -/
theorem admission_eq_rejected
    (world : AdmissionWorld)
    (config : AdmissionSettings)
    {scope : Scope}
    (isHttp : scope.type = .http)
    (reserves : scope.reservation = true) :
    world.admission config scope = .rejected ↔
      config.holdAdmissionLimit ≤ world.reserveInflight := by
  unfold admission
  rw [if_neg (not_not.mpr isHttp), if_neg (by simp [reserves])]
  split
  · rename_i full
    simpa using full
  · rename_i room
    simpa using room

/--
In every interleaving of any number of calls the counter is the number of
admitted holds that neither have started their response nor ended; it stays
between zero and the limit; every admitted call gives its place back once; no
other call moves it; and a hold is rejected when the limit is reached.
-/
theorem hold_admission_counts
    {actions : List HttpAction}
    (run : Run (Step config) {} actions world) :
    world.reserveInflight =
        (world.calls.countP fun call => decide call.Waiting : Nat) ∧
      0 ≤ world.reserveInflight ∧
      world.reserveInflight ≤ config.holdAdmissionLimit ∧
      (∀ call ∈ world.calls,
        call.decrements =
          if call.admission = .admitted ∧
              (call.responseHeadersEmitted = true ∨ call.ended = true) then
            1
          else
            0) ∧
      (∀ action after,
        Step config world action after →
        LeavesAlone world after (owner world action)) ∧
      ∀ scope,
        scope.type = .http →
        scope.reservation = true →
        (world.admission config scope = .rejected ↔
          world.reserveInflight = config.holdAdmissionLimit) ∧
        (world.admission config scope ≠ .rejected →
          world.admission config scope = .admitted) := by
  have counted : world.Counted config :=
    run.invariant counted_empty fun holds step => holds.step step
  refine ⟨?_, ?_, counted.bounded, ?_, ?_, ?_⟩
  · rw [counted.count]
    congr 1
    apply List.countP_congr
    intro call member
    simpa using (counted.exact call member).flag
  · rw [counted.count]
    exact Int.natCast_nonneg _
  · intro call member
    rw [(counted.exact call member).decrements]
    congr 1
    simp only [HttpCall.Waiting, eq_iff_iff, not_and_or,
      Bool.not_eq_false]
    tauto
  · intro action after step
    exact counted.leavesAlone step
  · intro scope isHttp reserves
    have rejects := world.admission_eq_rejected config isHttp reserves
    constructor
    · rw [rejects]
      exact ⟨fun full => le_antisymm counted.bounded full, ge_of_eq⟩
    · intro unrejected
      have room := not_le.mp fun full => unrejected (rejects.mpr full)
      exact admission_eq_admitted.mpr ⟨isHttp, reserves, room⟩

/-- One place. -/
def onePlace : AdmissionSettings where
  reservationMode := .postgres
  reserveConcurrency := 1
  redisReserveConcurrency := 128

def holdScope : Scope where
  type := .http
  method := "POST"
  path := "/v1/holds"

/-- A hold is admitted, a second one rejected, and the first starts to answer. -/
def firstAnswered : AdmissionWorld where
  reserveInflight := 0
  calls := [
    { admission := .admitted
      responseHeadersEmitted := true
      decrements := 1 },
    { admission := .rejected }]

theorem hold_admission_counts_firstAnswered :
    Run (Step onePlace) {}
        [.arrive holdScope, .arrive holdScope, .send 0 .responseStart]
        firstAnswered ∧
      firstAnswered.reserveInflight =
        (firstAnswered.calls.countP fun call => decide call.Waiting : Nat) ∧
      (firstAnswered.admission onePlace holdScope ≠ .rejected →
        firstAnswered.admission onePlace holdScope = .admitted) := by
  have run :
      Run (Step onePlace) {}
        [.arrive holdScope, .arrive holdScope, .send 0 .responseStart]
        firstAnswered :=
    .cons (.arrive holdScope) (.cons (.arrive holdScope)
      (.cons (.send rfl (by decide) .responseStart) (.nil _)))
  have exact := hold_admission_counts run
  exact ⟨run, exact.1, (exact.2.2.2.2.2 holdScope rfl rfl).2⟩

end AdmissionWorld

end FlashTicketing
