import FlashTicketing.Raising

namespace FlashTicketing

open Raising Raising.Program

/-!
# Transactions over the connection pool

`Postgres.transaction` and `Postgres.connection` over a driver whose calls can
all go wrong: checkout, `BEGIN`, the settings, the statements of the body,
`COMMIT`, `ROLLBACK`, the return of the connection and the samples of the pool.
Whatever fails, a transaction has its whole effect or none, and no connection
goes back with one open.
-/

/-! ## State -/

/-- An exception of the driver or of the pool. -/
structure Fault where
  sqlstate : Option String := none
  typeName : String
  deriving Repr, DecidableEq

/-- What a call raises: an exception of its body, or one of the driver. -/
inductive Raised (Exn : Type) where
  | body (error : Exn)
  | fault (fault : Fault)
  deriving Repr, DecidableEq

/-- The server's side of a connection. -/
inductive Session (Data : Type) where
  | idle
  | opened (working : Data)
  | aborted
  | lost
  deriving Repr, DecidableEq

/-- The durations that are observed. -/
inductive Metric where
  | poolSeconds (acquired : Bool)
  | connectionHoldSeconds
  | poolReturnSeconds
  | transactionBodySeconds
  | commitSeconds
  | rollbackSeconds
  | seconds
  deriving Repr, DecidableEq

/-- The local variables of one call. -/
structure Locals where
  /-- `outcome == "ok"`. -/
  acquired : Bool := false
  transactionStarted : Bool := false
  bodyDone : Bool := false
  errorRecorded : Bool := false
  deriving Repr, DecidableEq

/-- The committed data and the connections, of which some can be handed out. -/
structure Server (Data : Type) where
  data : Data
  available : List Nat
  session : Nat → Session Data := fun _ => .idle

/-- The server and the pool with the metrics and the variables of a call. -/
structure Client (Data : Type) extends Server Data where
  acquiring : Int := 0
  inUse : Int := 0
  errors : List String := []
  observed : List Metric := []
  locals : Locals := {}

variable {Data Exn Value Fate : Type}

namespace Server

def setSession
    (server : Server Data)
    (conn : Nat)
    (session : Session Data) : Server Data :=
  { server with session := Function.update server.session conn session }

@[simp] theorem session_setSession
    (server : Server Data)
    (conn : Nat)
    (session : Session Data) :
    (server.setSession conn session).session conn = session := by
  simp [setSession]

theorem session_setSession_of_ne
    {conn other : Nat}
    (server : Server Data)
    (session : Session Data)
    (isOther : other ≠ conn) :
    (server.setSession conn session).session other =
      server.session other := by
  simp [setSession, isOther]

end Server

/-- What runs inside the transaction; no statement of it ends the latter. -/
structure Body (Data Exn Value : Type) where
  run : Data → Except (Raised Exn) Value × Session Data
  unfinished : ∀ data, (run data).2 ≠ .idle

/-- A program of the client. -/
abbrev Routine (Data Exn Value : Type) : Type :=
  Program (Client Data) (Raised Exn) Value

/-! ## The driver -/

/--
What the code calls of a pool and of its connections.  What happens below a call
is its fate: whether the server answers, what it answers, what the network
loses.
-/
structure Driver (Data Fate : Type) where
  getconn : Fate → Program (Server Data) Fault Nat
  putconn : Fate → Nat → Program (Server Data) Fault Unit
  getStats : Fate → Program (Server Data) Fault Unit
  /-- Statements that write nothing. -/
  execute : Fate → Nat → String → Program (Server Data) Fault Unit
  commit : Fate → Nat → Program (Server Data) Fault Unit
  rollback : Fate → Nat → Program (Server Data) Fault Unit
  /-- `__exit__` of a connection, after an exception or without one. -/
  exit : Fate → Nat → (raised : Bool) → Program (Server Data) Fault Unit

/-- At most the session of one connection has changed. -/
def Server.Touched
    (server : Server Data)
    (conn : Nat)
    (after : Server Data) : Prop :=
  ∃ session, after = server.setSession conn session

/-- A commit was answered; the server rolls back what was aborted. -/
inductive Server.Committed
    (server : Server Data)
    (conn : Nat) :
    Server Data → Prop where
  | opened
      {working : Data}
      (isOpened : server.session conn = .opened working) :
      Committed server conn
        ({ server with data := working }.setSession conn .idle)
  | aborted
      (isAborted : server.session conn = .aborted) :
      Committed server conn (server.setSession conn .idle)
  | idle
      (isIdle : server.session conn = .idle) :
      Committed server conn server

/-- A commit was not answered, be it that the server has committed. -/
inductive Server.Unanswered
    (server : Server Data)
    (conn : Nat) :
    Server Data → Prop where
  | undone
      {after : Server Data}
      (touched : server.Touched conn after) :
      Unanswered server conn after
  | done
      {working : Data}
      {session : Session Data}
      (isOpened : server.session conn = .opened working) :
      Unanswered server conn
        ({ server with data := working }.setSession conn session)

/-- The statements that open a transaction. -/
def openingQueries : List String :=
  ["BEGIN", "SET LOCAL lock_timeout = '75ms'",
    "SET LOCAL statement_timeout = '1500ms'",
    "SET LOCAL idle_in_transaction_session_timeout = '3s'"]

/--
What the driver documents.  A call that raises has touched its connection at
most, but for a commit whose answer was lost.
-/
structure Driver.Lawful (driver : Driver Data Fate) : Prop where
  getconn_ok :
    ∀ {fate server conn after},
      driver.getconn fate server = (.ok conn, after) →
      ∃ rest,
        server.available.Perm (conn :: rest) ∧
          after = { server with available := rest }
  getconn_error :
    ∀ {fate server fault after},
      driver.getconn fate server = (.error fault, after) →
      after = server
  /-- The pool takes the connection back, which it resets or replaces. -/
  putconn_ok :
    ∀ {fate conn server after},
      driver.putconn fate conn server = (.ok (), after) →
      ∃ available,
        available.Perm (conn :: server.available) ∧
          after = { server with available := available }.setSession conn .idle
  putconn_error :
    ∀ {fate conn server fault after},
      driver.putconn fate conn server = (.error fault, after) →
      after = server
  getStats :
    ∀ fate server, (driver.getStats fate server).2 = server
  /-- The first statement opens the transaction. -/
  execute_idle :
    ∀ {fate conn query server after},
      query ∈ openingQueries →
      server.session conn = .idle →
      driver.execute fate conn query server = (.ok (), after) →
      after = server.setSession conn (.opened server.data)
  execute_opened :
    ∀ {fate conn query server working after},
      query ∈ openingQueries →
      server.session conn = .opened working →
      driver.execute fate conn query server = (.ok (), after) →
      after = server
  execute_error :
    ∀ {fate conn query server fault after},
      driver.execute fate conn query server = (.error fault, after) →
      server.Touched conn after
  commit_ok :
    ∀ {fate conn server after},
      driver.commit fate conn server = (.ok (), after) →
      server.Committed conn after
  commit_error :
    ∀ {fate conn server fault after},
      driver.commit fate conn server = (.error fault, after) →
      server.Unanswered conn after
  rollback :
    ∀ fate conn (server : Server Data),
      server.Touched conn (driver.rollback fate conn server).2
  /-- There is nothing to commit. -/
  exit_idle :
    ∀ {fate conn server},
      server.session conn = .idle →
      driver.exit fate conn false server = (.ok (), server)
  /-- The exception that leaves the block is not replaced. -/
  exit_raised :
    ∀ fate conn (server : Server Data),
      ∃ after,
        driver.exit fate conn true server = (.ok (), after) ∧
          server.Touched conn after

/-- What happens below one call. -/
structure Attempts (Fate : Type) where
  getconn : Fate
  sampled : Fate
  begins : Fate
  lockTimeout : Fate
  statementTimeout : Fate
  idleTimeout : Fate
  commit : Fate
  rollback : Fate
  exit : Fate
  putconn : Fate
  resampled : Fate
  sampledFailing : Fate

/-- Neither the sample after the checkout nor the return raises. -/
structure Attempts.Returns
    (driver : Driver Data Fate)
    (attempts : Attempts Fate) : Prop where
  sampled :
    ∀ {server fault after},
      driver.getStats attempts.sampled server ≠ (.error fault, after)
  putconn :
    ∀ {conn server fault after},
      driver.putconn attempts.putconn conn server ≠ (.error fault, after)

/-! ## `connection` and `transaction` -/

/-- A pool, and what `_record_error` finds in an exception of a body. -/
structure Postgres (Data Exn Fate : Type) where
  driver : Driver Data Fate
  sqlstate : Exn → Option String

namespace Postgres

/-- A call of the driver. -/
def calling
    (program : Program (Server Data) Fault Value) : Routine Data Exn Value :=
  fun client =>
    match program client.toServer with
    | (result, server) =>
        (result.mapError .fault, { client with toServer := server })

def observe (metric : Metric) : Routine Data Exn Unit :=
  update fun client =>
    { client with observed := client.observed ++ [metric] }

def setLocals (change : Locals → Locals) : Routine Data Exn Unit :=
  update fun client => { client with locals := change client.locals }

def addAcquiring (change : Int) : Routine Data Exn Unit :=
  update fun client => { client with acquiring := client.acquiring + change }

def addInUse (change : Int) : Routine Data Exn Unit :=
  update fun client => { client with inUse := client.inUse + change }

/-- The exception when a closed connection is used. -/
def closedFault : Fault where
  typeName := "OperationalError"

/-- `yield conn`. -/
def runBody
    (conn : Nat)
    (body : Body Data Exn Value) : Routine Data Exn Value :=
  fun client =>
    match client.session conn with
    | .opened working =>
        ((body.run working).1,
          { client with
            toServer :=
              client.toServer.setSession conn (body.run working).2 })
    | _ => (.error (.fault closedFault), client)

/-- `body_done` is set if it was not. -/
def endBody : Routine Data Exn Unit := do
  let client ← read
  if client.locals.bodyDone then
    pure ()
  else do
    setLocals fun locals => { locals with bodyDone := true }
    observe .transactionBodySeconds

variable (self : Postgres Data Exn Fate)

/-- `sample_pool`, whose gauges nothing reads. -/
def samplePool (fate : Fate) : Routine Data Exn Unit :=
  calling (self.driver.getStats fate)

/-- `with conn`. -/
def withConn
    (conn : Nat)
    (fate : Fate)
    (inner : Routine Data Exn Value) : Routine Data Exn Value := do
  let value ←
    handle inner (fun _ => true) fun error => do
      calling (self.driver.exit fate conn true)
      raise error
  calling (self.driver.exit fate conn false)
  pure value

/-- The return of the connection. -/
def giveBack (conn : Nat) (attempts : Attempts Fate) :
    Routine Data Exn Unit := do
  cleanedUp (calling (self.driver.putconn attempts.putconn conn))
    (observe .poolReturnSeconds)
  observe .connectionHoldSeconds
  addInUse (-1)
  self.samplePool attempts.resampled

/-- `connection` around a block. -/
def connection
    (attempts : Attempts Fate)
    (block : Nat → Routine Data Exn Value) : Routine Data Exn Value := do
  addAcquiring 1
  cleanedUp
    (do
      let conn ← calling (self.driver.getconn attempts.getconn)
      setLocals fun locals => { locals with acquired := true }
      observe (.poolSeconds true)
      addAcquiring (-1)
      self.samplePool attempts.sampled
      addInUse 1
      cleanedUp (self.withConn conn attempts.exit (block conn))
        (self.giveBack conn attempts))
    (do
      let client ← read
      if client.locals.acquired then
        pure ()
      else do
        observe (.poolSeconds false)
        addAcquiring (-1)
        self.samplePool attempts.sampledFailing)

/-- `state or type(exc).__name__`, if that is counted. -/
def errorLabel : Raised Exn → Option String
  | .body error => (self.sqlstate error).filter fun state => state ≠ ""
  | .fault fault =>
      ((fault.sqlstate.filter fun state => state ≠ "").or
        (if fault.typeName ∈ ["PoolTimeout", "TooManyRequests"]
          then some fault.typeName
          else none))

/-- `_record_error`. -/
def recordError (error : Raised Exn) : Routine Data Exn Unit :=
  update fun client =>
    { client with
      errors := client.errors ++ (self.errorLabel error).toList }

/-- `conn.execute` of an opening statement. -/
def execute
    (conn : Nat)
    (fate : Fate)
    (query : String) : Routine Data Exn Unit :=
  calling (self.driver.execute fate conn query)

/-- The body between `BEGIN` and `COMMIT`. -/
def attempt
    (conn : Nat)
    (attempts : Attempts Fate)
    (body : Body Data Exn Value) : Routine Data Exn Value := do
  self.execute conn attempts.begins "BEGIN"
  self.execute conn attempts.lockTimeout "SET LOCAL lock_timeout = '75ms'"
  self.execute conn attempts.statementTimeout
    "SET LOCAL statement_timeout = '1500ms'"
  self.execute conn attempts.idleTimeout
    "SET LOCAL idle_in_transaction_session_timeout = '3s'"
  setLocals fun locals => { locals with transactionStarted := true }
  let value ← runBody conn body
  setLocals fun locals => { locals with bodyDone := true }
  observe .transactionBodySeconds
  cleanedUp (calling (self.driver.commit attempts.commit conn))
    (observe .commitSeconds)
  pure value

/-- The handler of `transaction`. -/
def giveUp
    (conn : Nat)
    (attempts : Attempts Fate)
    (error : Raised Exn) : Routine Data Exn Value := do
  setLocals fun locals =>
    { locals with errorRecorded := true, bodyDone := true }
  observe .transactionBodySeconds
  cleanedUp
    (do
      let client ← read
      if client.locals.transactionStarted then
        calling (self.driver.rollback attempts.rollback conn))
    (observe .rollbackSeconds)
  self.recordError error
  raise error

/-- The block of `transaction` on its connection. -/
def block
    (attempts : Attempts Fate)
    (body : Body Data Exn Value)
    (conn : Nat) : Routine Data Exn Value :=
  cleanedUp
    (handle (self.attempt conn attempts body) (fun _ => true)
      (self.giveUp conn attempts))
    (do
      endBody
      observe .seconds)

/-- An exception from outside the block is counted here. -/
def recordOutside (error : Raised Exn) : Routine Data Exn Unit := do
  let client ← read
  if client.locals.errorRecorded then
    pure ()
  else
    self.recordError error

/-- `transaction` around a body. -/
def transaction
    (attempts : Attempts Fate)
    (body : Body Data Exn Value) : Routine Data Exn Value := do
  setLocals fun _ => {}
  handle (self.connection attempts (self.block attempts body)) (fun _ => true)
    fun error => do
      self.recordOutside error
      raise error

/-! ## What the commands do -/

/-- Where a call stands: only the data and its connection may differ. -/
structure At
    (reference : Client Data)
    (conn : Nat)
    (data : Data)
    (session : Session Data)
    (recorded : Bool)
    (errors : List String)
    (client : Client Data) : Prop where
  server :
    client.toServer =
      { reference.toServer with data := data }.setSession conn session
  acquiring : client.acquiring = reference.acquiring
  inUse : client.inUse = reference.inUse
  recorded : client.locals.errorRecorded = recorded
  errors : client.errors = errors
  acquired : client.locals.acquired = reference.locals.acquired

/-- The effect of a body that returned: its writes, unless it was aborted. -/
def Effect
    (body : Body Data Exn Value)
    (start : Data)
    (value : Value)
    (data : Data) : Prop :=
  body.run start = (.ok value, .opened data) ∨
    body.run start = (.ok value, .aborted) ∧ data = start

/-- What a call that raises has done. -/
inductive Cause
    (body : Body Data Exn Value)
    (start : Data) :
    Raised Exn → Data → Prop where
  | body
      {error : Raised Exn}
      (failed : (body.run start).1 = .error error) :
      Cause body start error start
  | nothing
      {fault : Fault} :
      Cause body start (.fault fault) start
  | committed
      {fault : Fault}
      {value : Value}
      {data : Data}
      (effect : body.run start = (.ok value, .opened data)) :
      Cause body start (.fault fault) data

/-- Another exception may take the place of the first. -/
theorem Cause.replaced
    {body : Body Data Exn Value}
    {start data : Data}
    {error : Raised Exn}
    (cause : Cause body start error data)
    (fault : Fault) :
    Cause body start (.fault fault) data := by
  cases cause with
  | body => exact .nothing
  | nothing => exact .nothing
  | committed effect => exact .committed effect

/-- What a call of the driver does to the server is all that it does. -/
theorem meets_calling
    {program : Program (Server Data) Fault Value}
    {before : Client Data → Prop}
    {returned : Value → Client Data → Prop}
    {raised : Raised Exn → Client Data → Prop}
    (returns :
      ∀ {client value server},
        before client →
        program client.toServer = (.ok value, server) →
        returned value { client with toServer := server })
    (raises :
      ∀ {client fault server},
        before client →
        program client.toServer = (.error fault, server) →
        raised (.fault fault) { client with toServer := server }) :
    Meets before (calling program) returned raised := by
  constructor
  · intro client value after start ran
    unfold calling at ran
    cases called : program client.toServer with
    | mk result server =>
        rw [called] at ran
        cases result with
        | ok answer =>
            cases ran
            exact returns start called
        | error fault => cases ran
  · intro client error after start ran
    unfold calling at ran
    cases called : program client.toServer with
    | mk result server =>
        rw [called] at ran
        cases result with
        | ok answer => cases ran
        | error fault =>
            cases ran
            exact raises start called

section Commands

variable
  {reference : Client Data}
  {conn : Nat}
  {data : Data}
  {session : Session Data}
  {recorded : Bool}
  {errors : List String}
  {body : Body Data Exn Value}

theorem At.session_eq
    {client : Client Data}
    (standing : At reference conn data session recorded errors client) :
    client.session conn = session := by
  rw [standing.server, Server.session_setSession]

theorem At.data_eq
    {client : Client Data}
    (standing : At reference conn data session recorded errors client) :
    client.data = data := by
  rw [standing.server]
  rfl

/-- The connection goes on to another state, maybe with other data. -/
theorem At.moved
    {client : Client Data}
    (standing : At reference conn data session recorded errors client)
    (nextData : Data)
    (next : Session Data) :
    At reference conn nextData next recorded errors
      { client with
        toServer :=
          { client.toServer with data := nextData }.setSession conn
            next } where
  server := by
    simp [standing.server, Server.setSession]
  acquiring := standing.acquiring
  inUse := standing.inUse
  recorded := standing.recorded
  errors := standing.errors
  acquired := standing.acquired

theorem At.movedSession
    {client : Client Data}
    (standing : At reference conn data session recorded errors client)
    (next : Session Data) :
    At reference conn data next recorded errors
      { client with toServer := client.toServer.setSession conn next } := by
  have moved := standing.moved data next
  rw [← standing.data_eq] at moved
  rw [← standing.data_eq]
  exact moved

theorem At.touched
    {client : Client Data}
    {server : Server Data}
    (standing : At reference conn data session recorded errors client)
    (touched : client.toServer.Touched conn server) :
    ∃ next,
      At reference conn data next recorded errors
        { client with toServer := server } := by
  obtain ⟨next, rfl⟩ := touched
  exact ⟨next, standing.movedSession next⟩

/-- Durations and the flags of the body are not looked at. -/
theorem At.bookkeeping
    {client : Client Data}
    (standing : At reference conn data session recorded errors client)
    (observed : List Metric)
    (started done : Bool) :
    At reference conn data session recorded errors
      { client with
        observed := observed
        locals :=
          { client.locals with
            transactionStarted := started, bodyDone := done } } :=
  ⟨standing.server, standing.acquiring, standing.inUse, standing.recorded,
    standing.errors, standing.acquired⟩

/-- A call has raised; its connection may be in any state. -/
def Failed
    (reference : Client Data)
    (conn : Nat)
    (body : Body Data Exn Value)
    (start : Data)
    (recorded : Bool)
    (errors : List String)
    (error : Raised Exn)
    (client : Client Data) : Prop :=
  ∃ data session,
    At reference conn data session recorded errors client ∧
      Cause body start error data

/-- The writes of a body stay in its transaction. -/
theorem meets_runBody :
    Meets (At reference conn data (.opened data) recorded errors)
      (runBody conn body)
      (fun value client =>
        ∃ session,
          body.run data = (.ok value, session) ∧
            At reference conn data session recorded errors client)
      (Failed reference conn body data recorded errors) := by
  have runs
      {client : Client Data}
      (standing :
        At reference conn data (.opened data) recorded errors client) :
      runBody conn body client =
        ((body.run data).1,
          { client with
            toServer :=
              client.toServer.setSession conn (body.run data).2 }) := by
    unfold runBody
    rw [standing.session_eq]
  constructor
  · intro client value after standing ran
    rw [runs standing] at ran
    cases outcome : body.run data with
    | mk result next =>
        rw [outcome] at ran
        cases ran
        exact ⟨next, rfl, standing.movedSession next⟩
  · intro client error after standing ran
    rw [runs standing] at ran
    cases outcome : body.run data with
    | mk result next =>
        rw [outcome] at ran
        cases ran
        exact ⟨data, next, standing.movedSession next,
          .body (by rw [outcome])⟩

variable
  (self : Postgres Data Exn Fate)
  (lawful : self.driver.Lawful)

include lawful

theorem meets_execute
    {query : String}
    (fate : Fate)
    (opening : query ∈ openingQueries)
    (startable : session = .idle ∨ session = .opened data) :
    Meets (At reference conn data session recorded errors)
      (self.execute conn fate query)
      (fun _ => At reference conn data (.opened data) recorded errors)
      (Failed reference conn body data recorded errors) := by
  refine meets_calling ?_ ?_
  · intro client _ server standing ran
    rcases startable with isIdle | isOpened
    · have idle := standing.session_eq.trans isIdle
      rw [lawful.execute_idle opening idle ran, standing.data_eq]
      exact standing.movedSession _
    · have opened := standing.session_eq.trans isOpened
      rw [lawful.execute_opened opening opened ran, ← isOpened]
      exact standing
  · intro client fault server standing ran
    obtain ⟨next, stands⟩ := standing.touched (lawful.execute_error ran)
    exact ⟨data, next, stands, .nothing⟩

/-- A commit publishes the writes, or it raises. -/
theorem meets_commit
    (fate : Fate)
    (value : Value) :
    Meets
      (fun client =>
        ∃ session,
          body.run data = (.ok value, session) ∧
            At reference conn data session recorded errors client)
      (calling (self.driver.commit fate conn))
      (fun _ client =>
        ∃ after,
          Effect body data value after ∧
            At reference conn after .idle recorded errors client)
      (Failed reference conn body data recorded errors) := by
  refine meets_calling ?_ ?_
  · rintro client _ server ⟨session, effect, standing⟩ ran
    cases lawful.commit_ok ran with
    | @opened working isOpened =>
        rw [standing.session_eq] at isOpened
        rw [isOpened] at effect
        exact ⟨working, Or.inl effect, standing.moved working .idle⟩
    | aborted isAborted =>
        rw [standing.session_eq] at isAborted
        rw [isAborted] at effect
        exact ⟨data, Or.inr ⟨effect, rfl⟩, standing.movedSession .idle⟩
    | idle isIdle =>
        rw [standing.session_eq] at isIdle
        rw [isIdle] at effect
        exact absurd (congrArg Prod.snd effect) (body.unfinished data)
  · rintro client fault server ⟨session, effect, standing⟩ ran
    cases lawful.commit_error ran with
    | undone touched =>
        obtain ⟨next, stands⟩ := standing.touched touched
        exact ⟨data, next, stands, .nothing⟩
    | @done working next isOpened =>
        rw [standing.session_eq] at isOpened
        rw [isOpened] at effect
        exact ⟨working, next, standing.moved working next,
          .committed effect⟩

/-- A rollback publishes nothing. -/
theorem meets_rollback
    {start : Data}
    (fate : Fate)
    (error : Raised Exn) :
    Meets (Failed reference conn body start recorded errors error)
      (calling (self.driver.rollback fate conn))
      (fun _ => Failed reference conn body start recorded errors error)
      (Failed reference conn body start recorded errors) := by
  have touches (server : Server Data) :=
    lawful.rollback fate conn server
  refine meets_calling ?_ ?_
  · rintro client _ server ⟨data, session, standing, cause⟩ ran
    have touched := touches client.toServer
    rw [ran] at touched
    obtain ⟨next, stands⟩ := standing.touched touched
    exact ⟨data, next, stands, cause⟩
  · rintro client fault server ⟨data, session, standing, cause⟩ ran
    have touched := touches client.toServer
    rw [ran] at touched
    obtain ⟨next, stands⟩ := standing.touched touched
    exact ⟨data, next, stands, cause.replaced fault⟩

omit lawful

/-! ## The block of a transaction -/

/-- Nothing about durations and the flags of the body. -/
def Bookkept (holds : Client Data → Prop) : Prop :=
  ∀ client observed started done,
    holds client →
    holds { client with
      observed := observed
      locals :=
        { client.locals with
          transactionStarted := started, bodyDone := done } }

/-- A call has returned and its connection is idle. -/
def Done
    (reference : Client Data)
    (conn : Nat)
    (body : Body Data Exn Value)
    (start : Data)
    (errors : List String)
    (value : Value)
    (client : Client Data) : Prop :=
  ∃ data,
    Effect body start value data ∧
      At reference conn data .idle false errors client

/-- At most one error was counted. -/
def Counted (errors after : List String) : Prop :=
  after = errors ∨ ∃ label, after = errors ++ [label]

/-- A call has raised after its handler ran. -/
def GivenUp
    (reference : Client Data)
    (conn : Nat)
    (body : Body Data Exn Value)
    (start : Data)
    (errors : List String)
    (error : Raised Exn)
    (client : Client Data) : Prop :=
  ∃ after,
    Counted errors after ∧
      Failed reference conn body start true after error client

theorem bookkept_at :
    Bookkept (At reference conn data session recorded errors) :=
  fun _ observed started done standing =>
    standing.bookkeeping observed started done

theorem bookkept_failed
    {start : Data}
    (error : Raised Exn) :
    Bookkept (Failed reference conn body start recorded errors error) := by
  rintro client observed started done ⟨data, session, standing, cause⟩
  exact ⟨data, session, standing.bookkeeping observed started done, cause⟩

theorem bookkept_done
    {start : Data}
    (value : Value) :
    Bookkept (Done reference conn body start errors value) := by
  rintro client observed started done ⟨data, effect, standing⟩
  exact ⟨data, effect, standing.bookkeeping observed started done⟩

theorem bookkept_givenUp
    {start : Data}
    (error : Raised Exn) :
    Bookkept (GivenUp reference conn body start errors error) := by
  rintro client observed started done ⟨after, counted, failed⟩
  exact ⟨after, counted, bookkept_failed error client observed started done
    failed⟩

section Bookkeeping

variable
  {holds : Client Data → Prop}
  {raised : Raised Exn → Client Data → Prop}
  (bookkept : Bookkept holds)

include bookkept

theorem meets_observe (metric : Metric) :
    Meets holds (observe metric) (fun _ => holds) raised :=
  .update fun client => bookkept client _ _ _

theorem meets_started :
    Meets holds
      (setLocals fun locals => { locals with transactionStarted := true })
      (fun _ => holds) raised :=
  .update fun client => bookkept client _ _ _

theorem meets_bodyDone :
    Meets holds
      (setLocals fun locals => { locals with bodyDone := true })
      (fun _ => holds) raised :=
  .update fun client => bookkept client _ _ _

theorem meets_endBody :
    Meets holds endBody (fun _ => holds) raised := by
  refine .read fun seen => ?_
  split
  · exact .done fun _ standing => standing.1
  · exact ((meets_bodyDone bookkept).bind fun _ =>
      meets_observe bookkept _).weaken (fun _ => And.left)
      (fun _ _ standing => standing) (fun _ _ failed => failed)

end Bookkeeping

include lawful

theorem meets_attempt (attempts : Attempts Fate) :
    Meets (At reference conn data .idle false errors)
      (self.attempt conn attempts body)
      (Done reference conn body data errors)
      (Failed reference conn body data false errors) := by
  have executes
      {query : String}
      (fate : Fate)
      (opening : query ∈ openingQueries) :
      Meets (At reference conn data (.opened data) false errors)
        (self.execute conn fate query)
        (fun _ => At reference conn data (.opened data) false errors)
        (Failed reference conn body data false errors) :=
    self.meets_execute lawful fate opening (Or.inr rfl)
  unfold attempt
  refine (self.meets_execute lawful attempts.begins
    (by simp [openingQueries]) (Or.inl rfl)).bind fun _ => ?_
  refine (executes attempts.lockTimeout
    (by simp [openingQueries])).bind fun _ => ?_
  refine (executes attempts.statementTimeout
    (by simp [openingQueries])).bind fun _ => ?_
  refine (executes attempts.idleTimeout
    (by simp [openingQueries])).bind fun _ => ?_
  refine (meets_started bookkept_at).bind fun _ => ?_
  refine meets_runBody.bind fun value => ?_
  have bookkept :
      Bookkept fun client : Client Data =>
        ∃ session,
          body.run data = (.ok value, session) ∧
            At reference conn data session false errors client := by
    rintro client observed started done ⟨session, effect, standing⟩
    exact ⟨session, effect, standing.bookkeeping observed started done⟩
  refine (meets_bodyDone bookkept).bind fun _ => ?_
  refine (meets_observe bookkept _).bind fun _ => ?_
  refine (Meets.cleanedUp (self.meets_commit lawful attempts.commit value)
    (fun _ => meets_observe (bookkept_done value) _)
    (fun error => meets_observe (bookkept_failed error) _)).bind fun _ => ?_
  exact .done fun _ standing => standing

theorem meets_giveUp
    {start : Data}
    (attempts : Attempts Fate)
    (error : Raised Exn) :
    Meets (Failed reference conn body start false errors error)
      (self.giveUp conn attempts error)
      (Done reference conn body start errors)
      (GivenUp reference conn body start errors) := by
  have uncounted (raised : Raised Exn) (client : Client Data)
      (failed : Failed reference conn body start true errors raised client) :
      GivenUp reference conn body start errors raised client :=
    ⟨errors, Or.inl rfl, failed⟩
  have marked :
      Meets (Failed reference conn body start false errors error)
        (setLocals fun locals =>
          { locals with errorRecorded := true, bodyDone := true })
        (fun _ => Failed reference conn body start true errors error)
        (GivenUp reference conn body start errors) := by
    refine .update ?_
    rintro client ⟨data, session, standing, cause⟩
    exact ⟨data, session, ⟨standing.server, standing.acquiring,
      standing.inUse, rfl, standing.errors, standing.acquired⟩, cause⟩
  unfold giveUp
  refine marked.bind fun _ => ?_
  refine (meets_observe (bookkept_failed error) _).bind fun _ => ?_
  have rolledBack :
      Meets (Failed reference conn body start true errors error)
        (do
          let client ← Program.read
          if client.locals.transactionStarted then
            calling (self.driver.rollback attempts.rollback conn))
        (fun _ => Failed reference conn body start true errors error)
        (GivenUp reference conn body start errors) := by
    refine .read fun seen => ?_
    split
    · exact (self.meets_rollback lawful attempts.rollback error).weaken
        (fun _ => And.left) (fun _ _ failed => failed) uncounted
    · exact .done fun _ failed => failed.1
  refine (Meets.cleanedUp rolledBack
    (fun _ => meets_observe (bookkept_failed error) _)
    (fun raised => meets_observe (bookkept_givenUp raised) _)).bind fun _ => ?_
  have recordedOnce :
      Meets (Failed reference conn body start true errors error)
        (self.recordError error)
        (fun _ => GivenUp reference conn body start errors error)
        (GivenUp reference conn body start errors) := by
    refine .update ?_
    rintro client ⟨data, session, standing, cause⟩
    refine ⟨errors ++ (self.errorLabel error).toList, ?_, data, session,
      ⟨standing.server, standing.acquiring, standing.inUse,
        standing.recorded, ?_, standing.acquired⟩, cause⟩
    · cases self.errorLabel error with
      | none => exact Or.inl (List.append_nil _)
      | some label => exact Or.inr ⟨label, rfl⟩
    · simp only [standing.errors]
  refine recordedOnce.bind fun _ => ?_
  exact .raise fun _ givenUp => givenUp

theorem meets_block
    {start : Data}
    (attempts : Attempts Fate) :
    Meets (At reference conn start .idle false errors)
      (self.block attempts body conn)
      (Done reference conn body start errors)
      (GivenUp reference conn body start errors) := by
  have finished
      {holds : Client Data → Prop}
      {raised : Raised Exn → Client Data → Prop}
      (bookkept : Bookkept holds) :
      Meets holds (endBody >>= fun _ => observe .seconds) (fun _ => holds)
        raised :=
    (meets_endBody bookkept).bind fun _ => meets_observe bookkept _
  exact Meets.cleanedUp
    ((self.meets_attempt lawful attempts).rescue
      (self.meets_giveUp lawful attempts))
    (fun value => finished (bookkept_done value))
    (fun error => finished (bookkept_givenUp error))

/-- A return leaves nothing to commit, and an exception passes. -/
theorem meets_withConn
    {start : Data}
    {inner : Routine Data Exn Value}
    (fate : Fate)
    (meets :
      Meets (At reference conn start .idle false errors) inner
        (Done reference conn body start errors)
        (GivenUp reference conn body start errors)) :
    Meets (At reference conn start .idle false errors)
      (self.withConn conn fate inner)
      (Done reference conn body start errors)
      (GivenUp reference conn body start errors) := by
  have passes (error : Raised Exn) :
      Meets (GivenUp reference conn body start errors error)
        (calling (self.driver.exit fate conn true))
        (fun _ => GivenUp reference conn body start errors error)
        (GivenUp reference conn body start errors) := by
    refine meets_calling ?_ ?_
    · rintro client _ server
        ⟨counted, isCounted, data, session, standing, cause⟩ ran
      obtain ⟨after, exits, touched⟩ :=
        lawful.exit_raised fate conn client.toServer
      cases exits.symm.trans ran
      obtain ⟨next, stands⟩ := standing.touched touched
      exact ⟨counted, isCounted, data, next, stands, cause⟩
    · rintro client fault server _ ran
      obtain ⟨after, exits, _⟩ :=
        lawful.exit_raised fate conn client.toServer
      cases exits.symm.trans ran
  have returns (value : Value) :
      Meets (Done reference conn body start errors value)
        (calling (self.driver.exit fate conn false))
        (fun _ => Done reference conn body start errors value)
        (GivenUp reference conn body start errors) := by
    refine meets_calling ?_ ?_
    · rintro client _ server ⟨data, effect, standing⟩ ran
      cases (lawful.exit_idle standing.session_eq).symm.trans ran
      exact ⟨data, effect, standing⟩
    · rintro client fault server ⟨data, effect, standing⟩ ran
      cases (lawful.exit_idle standing.session_eq).symm.trans ran
  unfold withConn
  refine (meets.rescue fun error =>
    (passes error).bind fun _ => .raise fun _ givenUp => givenUp).bind
    fun value => ?_
  exact (returns value).bind fun _ => .done fun _ done => done

end Commands

/-! ## The pool around a block -/

/-- The pool has distinct connections without a transaction. -/
structure Ready (server : Server Data) : Prop where
  nodup : server.available.Nodup
  idle : ∀ conn ∈ server.available, server.session conn = .idle

/-- The pool after a call, and what it kept if the return succeeded. -/
structure Settled
    (driver : Driver Data Fate)
    (start : Client Data)
    (attempts : Attempts Fate)
    (client : Client Data) : Prop where
  ready : Ready client.toServer
  acquiring : client.acquiring = start.acquiring
  complete :
    attempts.Returns driver →
    client.available.Perm start.available ∧ client.inUse = start.inUse

/-- Whether the call has counted its error yet. -/
def Tally (start client : Client Data) : Prop :=
  client.locals.errorRecorded = true ∧ Counted start.errors client.errors ∨
    client.locals.errorRecorded = false ∧ client.errors = start.errors

/-- The pool while a connection is being acquired. -/
def acquiringFrom (start : Client Data) : Client Data :=
  { start with acquiring := start.acquiring + 1 }

/-- The pool once a connection was acquired. -/
def acquiredFrom
    (start : Client Data)
    (rest : List Nat)
    (acquiring : Int) : Client Data :=
  { start with
    available := rest
    acquiring := acquiring
    locals := { start.locals with acquired := true } }

/-- The state in which the block of a call starts. -/
def checkedOut (start : Client Data) (rest : List Nat) : Client Data :=
  { start with
    available := rest
    inUse := start.inUse + 1
    locals := { start.locals with acquired := true } }

/-- The state after a connection went back. -/
def returned (start : Client Data) (available rest : List Nat) :
    Client Data :=
  { checkedOut start rest with available := available }

section Pool

variable
  {driver : Driver Data Fate}
  {start : Client Data}
  {attempts : Attempts Fate}
  {conn : Nat}
  {rest available : List Nat}
  {data : Data}
  {session : Session Data}
  {recorded : Bool}
  {errors : List String}
  {body : Body Data Exn Value}

/-- A connection that was acquired and is not available any more. -/
theorem Ready.dropped
    (ready : Ready start.toServer)
    (isAvailable : start.available.Perm (conn :: rest))
    (data : Data)
    (session : Session Data) :
    Ready
      ({ start.toServer with available := rest, data := data }.setSession
        conn session) := by
  have distinct := isAvailable.nodup_iff.mp ready.nodup
  rw [List.nodup_cons] at distinct
  refine ⟨distinct.2, fun other member => ?_⟩
  have isOther : other ≠ conn := fun same => distinct.1 (same ▸ member)
  rw [Server.session_setSession_of_ne _ _ isOther]
  exact ready.idle other
    (isAvailable.mem_iff.mpr (List.mem_cons_of_mem _ member))

/-- A connection that went back is idle. -/
theorem Ready.returned
    (ready : Ready start.toServer)
    (permuted : available.Perm start.available)
    (data : Data) :
    Ready
      ({ start.toServer with
        available := available, data := data }.setSession conn .idle) := by
  refine ⟨permuted.nodup_iff.mpr ready.nodup, fun other member => ?_⟩
  by_cases same : other = conn
  · rw [same, Server.session_setSession]
  · rw [Server.session_setSession_of_ne _ _ same]
    exact ready.idle other (permuted.mem_iff.mp member)

/-- What the end of a call keeps of its block. -/
structure Kept
    (driver : Driver Data Fate)
    (start : Client Data)
    (attempts : Attempts Fate)
    (data : Data)
    (recorded : Bool)
    (errors : List String)
    (client : Client Data) : Prop where
  settled : Settled driver start attempts client
  data : client.data = data
  recorded : client.locals.errorRecorded = recorded
  errors : client.errors = errors
  acquired : client.locals.acquired = true

/-- A connection that could not be returned is not available. -/
theorem At.kept
    {client : Client Data}
    (ready : Ready start.toServer)
    (isAvailable : start.available.Perm (conn :: rest))
    (standing :
      At (checkedOut start rest) conn data session recorded errors client)
    (failed : ¬ attempts.Returns driver) :
    Kept driver start attempts data recorded errors client where
  settled :=
    ⟨by
      rw [standing.server]
      exact ready.dropped isAvailable data session,
      standing.acquiring, fun returns => absurd returns failed⟩
  data := standing.data_eq
  recorded := standing.recorded
  errors := standing.errors
  acquired := standing.acquired

theorem At.keptReturned
    {client : Client Data}
    (ready : Ready start.toServer)
    (permuted : available.Perm start.available)
    (standing :
      At { returned start available rest with inUse := start.inUse } conn
        data .idle recorded errors client) :
    Kept driver start attempts data recorded errors client where
  settled := by
    refine ⟨?_, standing.acquiring, fun _ => ⟨?_, standing.inUse⟩⟩
    · rw [standing.server]
      exact ready.returned permuted data
    · rw [standing.server]
      exact permuted
  data := standing.data_eq
  recorded := standing.recorded
  errors := standing.errors
  acquired := standing.acquired

/-- A call has returned. -/
structure Returned
    (driver : Driver Data Fate)
    (start : Client Data)
    (attempts : Attempts Fate)
    (body : Body Data Exn Value)
    (value : Value)
    (client : Client Data) : Prop where
  settled : Settled driver start attempts client
  effect : Effect body start.data value client.data
  errors : client.errors = start.errors
  unrecorded : client.locals.errorRecorded = false

/-- A call has raised. -/
structure Threw
    (driver : Driver Data Fate)
    (start : Client Data)
    (attempts : Attempts Fate)
    (body : Body Data Exn Value)
    (error : Raised Exn)
    (client : Client Data) : Prop where
  settled : Settled driver start attempts client
  cause : Cause body start.data error client.data
  tally : Tally start client

/-- An exception of the cleanup takes the place of the result. -/
theorem Returned.threw
    {client : Client Data}
    {value : Value}
    (returned : Returned driver start attempts body value client)
    (fault : Fault) :
    Threw driver start attempts body (.fault fault) client := by
  refine ⟨returned.settled, ?_,
    Or.inr ⟨returned.unrecorded, returned.errors⟩⟩
  rcases returned.effect with effect | ⟨_, same⟩
  · exact .committed effect
  · rw [same]
    exact .nothing

theorem Threw.replaced
    {client : Client Data}
    {error : Raised Exn}
    (threw : Threw driver start attempts body error client)
    (fault : Fault) :
    Threw driver start attempts body (.fault fault) client :=
  ⟨threw.settled, threw.cause.replaced fault, threw.tally⟩

variable
  (self : Postgres Data Exn Fate)
  (lawful : self.driver.Lawful)

include lawful

/-- A sample leaves the server and the pool as they are. -/
theorem meets_samplePool
    {holds : Client Data → Prop}
    (fate : Fate) :
    Meets holds (self.samplePool fate)
      (fun _ => holds)
      (fun error client =>
        ∃ fault,
          error = (.fault fault : Raised Exn) ∧
            holds client ∧
            ∃ server after,
              self.driver.getStats fate server = (.error fault, after)) := by
  refine meets_calling ?_ ?_
  · intro client _ server standing ran
    have same := lawful.getStats fate client.toServer
    rw [ran] at same
    rw [show server = client.toServer from same]
    exact standing
  · intro client fault server standing ran
    have same := lawful.getStats fate client.toServer
    rw [ran] at same
    refine ⟨fault, rfl, ?_, _, _, ran⟩
    rw [show server = client.toServer from same]
    exact standing

theorem meets_putconn :
    Meets (At (checkedOut start rest) conn data session recorded errors)
      (calling (self.driver.putconn attempts.putconn conn))
      (fun _ client =>
        ∃ available,
          available.Perm (conn :: rest) ∧
            At (returned start available rest) conn data .idle recorded
              errors client)
      (fun error client =>
        (∃ fault, error = (.fault fault : Raised Exn)) ∧
          ¬ attempts.Returns self.driver ∧
          At (checkedOut start rest) conn data session recorded errors
            client) := by
  refine meets_calling ?_ ?_
  · intro client _ server standing ran
    obtain ⟨available, permuted, isServer⟩ := lawful.putconn_ok ran
    rw [standing.server] at permuted
    refine ⟨available, permuted, ?_, standing.acquiring, standing.inUse,
      standing.recorded, standing.errors, standing.acquired⟩
    rw [isServer, standing.server]
    simp [Server.setSession, Postgres.returned]
  · intro client fault server standing ran
    refine ⟨⟨fault, rfl⟩, fun returns => returns.putconn ran, ?_⟩
    rw [lawful.putconn_error ran]
    exact standing

/-- The connection goes back, or it is not in the pool any more. -/
theorem meets_giveBack
    (ready : Ready start.toServer)
    (isAvailable : start.available.Perm (conn :: rest)) :
    Meets (At (checkedOut start rest) conn data session recorded errors)
      (self.giveBack conn attempts)
      (fun _ => Kept self.driver start attempts data recorded errors)
      (fun error client =>
        (∃ fault, error = (.fault fault : Raised Exn)) ∧
          Kept self.driver start attempts data recorded errors client) := by
  unfold giveBack
  have putBack :
      Meets (At (checkedOut start rest) conn data session recorded errors)
        (Program.cleanedUp
          (calling (self.driver.putconn attempts.putconn conn))
          (observe .poolReturnSeconds))
        (fun _ client =>
          ∃ available,
            available.Perm (conn :: rest) ∧
              At (returned start available rest) conn data .idle recorded
                errors client)
        (fun error client =>
          (∃ fault, error = (.fault fault : Raised Exn)) ∧
            Kept self.driver start attempts data recorded errors
              client) := by
    refine Meets.cleanedUp (self.meets_putconn lawful) ?_ fun error => ?_
    · exact fun _ => .any fun available => .given fun permuted =>
        (meets_observe bookkept_at _).weaken (fun _ standing => standing)
          (fun _ _ standing => ⟨available, permuted, standing⟩)
          fun _ _ failed => failed
    · refine .update ?_
      rintro client ⟨isFault, failed, standing⟩
      exact ⟨isFault, (bookkept_at client _ _ _ standing).kept ready
        isAvailable failed⟩
  refine putBack.bind fun _ => .any fun available => .given fun permuted => ?_
  refine (meets_observe bookkept_at _).bind fun _ => ?_
  have decreased :
      Meets (At (returned start available rest) conn data .idle recorded
          errors)
        (addInUse (-1) : Routine Data Exn Unit)
        (fun _ => Kept self.driver start attempts data recorded errors)
        (fun error client =>
          (∃ fault, error = (.fault fault : Raised Exn)) ∧
            Kept self.driver start attempts data recorded errors
              client) := by
    refine .update fun client standing => ?_
    refine At.keptReturned ready (permuted.trans isAvailable.symm)
      ⟨standing.server, standing.acquiring, ?_, standing.recorded,
        standing.errors, standing.acquired⟩
    have inUse : client.inUse = start.inUse + 1 := standing.inUse
    simp only [inUse]
    omega
  refine decreased.bind fun _ => ?_
  refine (self.meets_samplePool lawful attempts.resampled).weaken
    (fun _ kept => kept) (fun _ _ kept => kept) ?_
  rintro _ client ⟨fault, rfl, kept, _⟩
  exact ⟨⟨fault, rfl⟩, kept⟩

/-- A block on the connection, and the return of the latter. -/
theorem meets_held
    {inner : Routine Data Exn Value}
    (ready : Ready start.toServer)
    (isAvailable : start.available.Perm (conn :: rest))
    (meets :
      Meets (At (checkedOut start rest) conn start.data .idle false
          start.errors)
        inner
        (Done (checkedOut start rest) conn body start.data start.errors)
        (GivenUp (checkedOut start rest) conn body start.data
          start.errors)) :
    Meets (At (checkedOut start rest) conn start.data .idle false
        start.errors)
      (Program.cleanedUp (self.withConn conn attempts.exit inner)
        (self.giveBack conn attempts))
      (fun value client =>
        Returned self.driver start attempts body value client ∧
          client.locals.acquired = true)
      (fun error client =>
        Threw self.driver start attempts body error client ∧
          client.locals.acquired = true) := by
  refine Meets.cleanedUp
    (self.meets_withConn lawful attempts.exit meets) ?_ ?_
  · intro value
    refine .any fun data => .given fun effect => ?_
    have returned {client : Client Data}
        (kept :
          Kept self.driver start attempts data false start.errors client) :
        Returned self.driver start attempts body value client :=
      ⟨kept.settled, kept.data ▸ effect, kept.errors, kept.recorded⟩
    refine (self.meets_giveBack lawful ready isAvailable).weaken
      (fun _ standing => standing)
      (fun _ _ kept => ⟨returned kept, kept.acquired⟩) ?_
    rintro _ client ⟨⟨fault, rfl⟩, kept⟩
    exact ⟨(returned kept).threw fault, kept.acquired⟩
  · intro error
    refine .any fun after => .given fun counted => ?_
    refine .any fun data => .any fun session => ?_
    have threw {client : Client Data}
        (cause : Cause body start.data error data)
        (kept : Kept self.driver start attempts data true after client) :
        Threw self.driver start attempts body error client :=
      ⟨kept.settled, kept.data ▸ cause,
        Or.inl ⟨kept.recorded, kept.errors ▸ counted⟩⟩
    constructor
    · rintro client _ final ⟨standing, cause⟩ ran
      have kept :=
        (self.meets_giveBack lawful ready isAvailable).returns standing ran
      exact ⟨threw cause kept, kept.acquired⟩
    · rintro client _ final ⟨standing, cause⟩ ran
      obtain ⟨⟨fault, isFault⟩, kept⟩ :=
        (self.meets_giveBack lawful ready isAvailable).raises standing ran
      subst isFault
      exact ⟨(threw cause kept).replaced fault, kept.acquired⟩

theorem meets_getconn
    (ready : Ready start.toServer)
    (fresh : start.locals = {}) :
    Meets (fun client => client = acquiringFrom start)
      (calling (self.driver.getconn attempts.getconn))
      (fun conn client =>
        ∃ rest,
          start.available.Perm (conn :: rest) ∧
            At { acquiringFrom start with available := rest } conn
              start.data .idle false start.errors client)
      (fun error client =>
        (∃ fault, error = (.fault fault : Raised Exn)) ∧
          client = acquiringFrom start) := by
  refine meets_calling ?_ ?_
  · intro client conn server isStart ran
    subst isStart
    obtain ⟨rest, permuted, isServer⟩ := lawful.getconn_ok ran
    have idle : start.session conn = .idle :=
      ready.idle conn (permuted.mem_iff.mpr List.mem_cons_self)
    refine ⟨rest, permuted, ?_, rfl, rfl, ?_, rfl, rfl⟩
    · rw [isServer]
      simp only [Server.setSession, acquiringFrom, ← idle,
        Function.update_eq_self]
    · simp only [acquiringFrom, fresh]
  · intro client fault server isStart ran
    refine ⟨⟨fault, rfl⟩, ?_⟩
    rw [lawful.getconn_error ran]
    exact isStart

/-- From the checkout to the return of the connection. -/
theorem meets_acquired
    {block : Nat → Routine Data Exn Value}
    (ready : Ready start.toServer)
    (isAvailable : start.available.Perm (conn :: rest))
    (meets :
      Meets (At (checkedOut start rest) conn start.data .idle false
          start.errors)
        (block conn)
        (Done (checkedOut start rest) conn body start.data start.errors)
        (GivenUp (checkedOut start rest) conn body start.data
          start.errors)) :
    Meets
      (At { acquiringFrom start with available := rest } conn start.data
        .idle false start.errors)
      (do
        setLocals fun locals => { locals with acquired := true }
        observe (.poolSeconds true)
        addAcquiring (-1)
        self.samplePool attempts.sampled
        addInUse 1
        Program.cleanedUp (self.withConn conn attempts.exit (block conn))
          (self.giveBack conn attempts))
      (fun value client =>
        Returned self.driver start attempts body value client ∧
          client.locals.acquired = true)
      (fun error client =>
        Threw self.driver start attempts body error client ∧
          client.locals.acquired = true) := by
  have marked :
      Meets
        (At { acquiringFrom start with available := rest } conn start.data
          .idle false start.errors)
        (setLocals fun locals => { locals with acquired := true })
        (fun _ =>
          At (acquiredFrom start rest (start.acquiring + 1)) conn start.data
            .idle false start.errors)
        (fun error client =>
          Threw self.driver start attempts body error client ∧
            client.locals.acquired = true) :=
    .update fun client standing =>
      ⟨standing.server, standing.acquiring, standing.inUse,
        standing.recorded, standing.errors, rfl⟩
  have decreased :
      Meets
        (At (acquiredFrom start rest (start.acquiring + 1)) conn start.data
          .idle false start.errors)
        (addAcquiring (-1))
        (fun _ =>
          At (acquiredFrom start rest start.acquiring) conn start.data .idle
            false start.errors)
        (fun error client =>
          Threw self.driver start attempts body error client ∧
            client.locals.acquired = true) := by
    refine .update fun client standing => ?_
    refine ⟨standing.server, ?_, standing.inUse, standing.recorded,
      standing.errors, standing.acquired⟩
    have acquiring : client.acquiring = start.acquiring + 1 :=
      standing.acquiring
    simp only [acquiring, acquiredFrom]
    omega
  have sampled :
      Meets
        (At (acquiredFrom start rest start.acquiring) conn start.data .idle
          false start.errors)
        (self.samplePool attempts.sampled)
        (fun _ =>
          At (acquiredFrom start rest start.acquiring) conn start.data .idle
            false start.errors)
        (fun error client =>
          Threw self.driver start attempts body error client ∧
            client.locals.acquired = true) := by
    -- The connection is gone: nothing returns it from here.
    refine (self.meets_samplePool lawful attempts.sampled).weaken
      (fun _ standing => standing) (fun _ _ standing => standing) ?_
    rintro _ client ⟨fault, rfl, standing, _, _, raised⟩
    refine ⟨⟨⟨?_, standing.acquiring,
      fun returns => absurd raised returns.sampled⟩, ?_,
      Or.inr ⟨standing.recorded, standing.errors⟩⟩, standing.acquired⟩
    · rw [standing.server]
      exact ready.dropped isAvailable start.data .idle
    · rw [standing.data_eq]
      exact .nothing
  have increased :
      Meets
        (At (acquiredFrom start rest start.acquiring) conn start.data .idle
          false start.errors)
        (addInUse 1)
        (fun _ =>
          At (checkedOut start rest) conn start.data .idle false
            start.errors)
        (fun error client =>
          Threw self.driver start attempts body error client ∧
            client.locals.acquired = true) := by
    refine .update fun client standing => ?_
    refine ⟨standing.server, standing.acquiring, ?_, standing.recorded,
      standing.errors, standing.acquired⟩
    simp only [standing.inUse]
    rfl
  refine marked.bind fun _ => ?_
  refine (meets_observe bookkept_at _).bind fun _ => ?_
  refine decreased.bind fun _ => ?_
  refine sampled.bind fun _ => ?_
  exact increased.bind fun _ =>
    self.meets_held lawful ready isAvailable meets

/-- A failed checkout leaves the pool as it was. -/
theorem meets_notAcquired
    (ready : Ready start.toServer)
    (fresh : start.locals = {})
    (fault : Fault) :
    Meets (fun client => client = acquiringFrom start)
      (do
        observe (.poolSeconds false)
        addAcquiring (-1)
        self.samplePool attempts.sampledFailing)
      (fun _ => Threw self.driver start attempts body (.fault fault))
      (Threw self.driver start attempts body) := by
  have threw {client : Client Data} {fault : Fault}
      (isStart :
        client =
          { start with
            observed := start.observed ++ [.poolSeconds false] }) :
      Threw self.driver start attempts body (.fault fault) client := by
    subst isStart
    refine ⟨⟨⟨ready.nodup, ready.idle⟩, rfl,
      fun _ => ⟨List.Perm.refl _, rfl⟩⟩, .nothing, Or.inr ⟨?_, rfl⟩⟩
    rw [fresh]
  have decreased :
      Meets
        (fun client =>
          client =
            { acquiringFrom start with
              observed := start.observed ++ [.poolSeconds false] })
        (addAcquiring (-1))
        (fun _ client =>
          client =
            { start with
              observed := start.observed ++ [.poolSeconds false] })
        (Threw self.driver start attempts body) := by
    refine .update fun client isStart => ?_
    rw [isStart]
    have same : start.acquiring + 1 + -1 = start.acquiring := by omega
    simp only [acquiringFrom, same]
  refine Meets.bind (.update fun client isStart => ?_)
    fun _ => decreased.bind fun _ => ?_
  · rw [isStart]
    rfl
  · refine (self.meets_samplePool lawful attempts.sampledFailing).weaken
      (fun _ isStart => isStart) (fun _ _ isStart => threw isStart) ?_
    rintro _ client ⟨other, rfl, isStart, _⟩
    exact threw isStart

/-- Whatever happens to a call, its end settles the pool. -/
theorem meets_connection
    {block : Nat → Routine Data Exn Value}
    (ready : Ready start.toServer)
    (fresh : start.locals = {})
    (meets :
      ∀ {conn rest},
        Meets (At (checkedOut start rest) conn start.data .idle false
            start.errors)
          (block conn)
          (Done (checkedOut start rest) conn body start.data start.errors)
          (GivenUp (checkedOut start rest) conn body start.data
            start.errors)) :
    Meets (fun client => client = start) (self.connection attempts block)
      (Returned self.driver start attempts body)
      (Threw self.driver start attempts body) := by
  have main :
      Meets (fun client => client = acquiringFrom start)
        (do
          let conn ← calling (self.driver.getconn attempts.getconn)
          setLocals fun locals => { locals with acquired := true }
          observe (.poolSeconds true)
          addAcquiring (-1)
          self.samplePool attempts.sampled
          addInUse 1
          Program.cleanedUp
            (self.withConn conn attempts.exit (block conn))
            (self.giveBack conn attempts))
        (fun value client =>
          Returned self.driver start attempts body value client ∧
            client.locals.acquired = true)
        (fun error client =>
          Threw self.driver start attempts body error client ∧
              client.locals.acquired = true ∨
            (∃ fault, error = .fault fault) ∧
              client = acquiringFrom start) := by
    refine ((self.meets_getconn lawful ready fresh).weaken
      (fun _ isStart => isStart) (fun _ _ found => found)
      fun _ _ failed => Or.inr failed).bind ?_
    intro conn
    refine .any fun rest => .given fun isAvailable => ?_
    exact (self.meets_acquired lawful ready isAvailable meets).weaken
      (fun _ standing => standing) (fun _ _ returned => returned)
      fun _ _ threw => Or.inl threw
  unfold connection
  refine Meets.bind (.update fun client isStart => ?_)
    fun _ => Meets.cleanedUp main ?_ ?_
  · exact isStart ▸ rfl
  · intro value
    refine .read fun seen => ?_
    split
    · exact .done fun _ standing => standing.1.1
    · rename_i notAcquired
      refine .unreached fun client standing => notAcquired ?_
      rw [← standing.2]
      exact standing.1.2
  · intro error
    refine .read fun seen => ?_
    split
    · rename_i acquired
      refine .done fun client standing => ?_
      rcases standing.1 with threw | ⟨_, isStart⟩
      · exact threw.1
      · rw [← standing.2, isStart, acquiringFrom, fresh] at acquired
        cases acquired
    · rename_i notAcquired
      have failed {client : Client Data}
          (standing :
            (Threw self.driver start attempts body error client ∧
                client.locals.acquired = true ∨
              (∃ fault, error = .fault fault) ∧
                client = acquiringFrom start) ∧
              client = seen) :
          (∃ fault, error = .fault fault) ∧
            client = acquiringFrom start := by
        refine standing.1.resolve_left fun threw => notAcquired ?_
        rw [← standing.2]
        exact threw.2
      constructor
      · intro client _ after standing ran
        obtain ⟨⟨fault, isFault⟩, isStart⟩ := failed standing
        subst isFault
        exact (self.meets_notAcquired lawful ready fresh fault).returns
          isStart ran
      · intro client _ after standing ran
        obtain ⟨⟨fault, _⟩, isStart⟩ := failed standing
        exact (self.meets_notAcquired lawful ready fresh fault).raises
          isStart ran

/--
A call returns only with the effect of its body, and it raises with the effect
or without any.  Its error is counted at most once.
-/
theorem meets_transaction (ready : Ready start.toServer) :
    Meets (fun client => client = start) (self.transaction attempts body)
      (fun value client =>
        Settled self.driver start attempts client ∧
          Effect body start.data value client.data ∧
          client.errors = start.errors)
      (fun error client =>
        Settled self.driver start attempts client ∧
          Cause body start.data error client.data ∧
          Counted start.errors client.errors) := by
  have settled {client : Client Data}
      (reached :
        Settled self.driver { start with locals := {} } attempts client) :
      Settled self.driver start attempts client :=
    ⟨reached.ready, reached.acquiring, reached.complete⟩
  have connected :
      Meets (fun client => client = { start with locals := {} })
        (self.connection attempts (self.block attempts body))
        (Returned self.driver { start with locals := {} } attempts body)
        (Threw self.driver { start with locals := {} } attempts body) :=
    self.meets_connection lawful ready rfl
      (self.meets_block lawful attempts)
  unfold transaction
  have reset :
      Meets (fun client => client = start) (setLocals fun _ => {})
        (fun _ client => client = { start with locals := {} })
        (fun error client =>
          Settled self.driver start attempts client ∧
            Cause body start.data error client.data ∧
            Counted start.errors client.errors) := by
    refine .update fun client isStart => ?_
    rw [isStart]
  refine reset.bind fun _ => ?_
  refine Meets.rescue
    (connected.weaken (fun _ isStart => isStart)
      (fun value client returned =>
        ⟨settled returned.settled, returned.effect, returned.errors⟩)
      fun _ _ threw => threw) fun error => ?_
  refine Meets.bind
    (?_ : Meets _ _
      (fun _ client =>
        Settled self.driver start attempts client ∧
          Cause body start.data error client.data ∧
          Counted start.errors client.errors) _)
    fun _ => .raise fun _ raised => raised
  refine .read fun seen => ?_
  split
  · rename_i recorded
    refine .done fun client standing => ?_
    obtain ⟨threw, isSeen⟩ := standing
    rw [← isSeen] at recorded
    refine ⟨settled threw.settled, threw.cause, ?_⟩
    rcases threw.tally with ⟨_, counted⟩ | ⟨unrecorded, _⟩
    · exact counted
    · rw [recorded] at unrecorded
      cases unrecorded
  · rename_i notRecorded
    refine .update fun client standing => ?_
    obtain ⟨threw, isSeen⟩ := standing
    rw [← isSeen] at notRecorded
    refine ⟨⟨threw.settled.ready, threw.settled.acquiring,
      threw.settled.complete⟩, threw.cause, ?_⟩
    rcases threw.tally with ⟨recorded, _⟩ | ⟨_, same⟩
    · exact absurd recorded notRecorded
    · simp only [same]
      cases self.errorLabel error with
      | none => exact Or.inl (List.append_nil _)
      | some label => exact Or.inr ⟨label, rfl⟩

end Pool

end Postgres

end FlashTicketing
