import FlashTicketing.Raising
import FlashTicketing.Redaction

namespace FlashTicketing.CapacityStage

open Raising Program

/-!
# The unattended capacity stage

`main` of the stage script drives two hosts through one load test: it deploys a
candidate, starts observers and the load generator, collects evidence, audits
the bookings and restores the deployment.  Every remote operation may fail in
its own way; what the operations do is up to an environment that assigns an
outcome to each.  Files and directories of the operator's own machine are taken
to work.
-/

/-! ## JSON values -/

/-- A floating point number: a rational, or one of the special values. -/
inductive PyFloat where
  | finite (value : Rat)
  | infinite (negative : Bool)
  | nan

/-- What `json.loads` returns. -/
inductive Json where
  | null
  | bool (value : Bool)
  | int (value : Int)
  | float (value : PyFloat)
  | text (value : String)
  | array (items : List Json)
  | object (fields : List (String × Json))

namespace Json

/-- `type(value).__name__`. -/
def className : Json → String
  | .null => "NoneType"
  | .bool _ => "bool"
  | .int _ => "int"
  | .float _ => "float"
  | .text _ => "str"
  | .array _ => "list"
  | .object _ => "dict"

/-- `bool(value)`. -/
def truthy : Json → Bool
  | .null => false
  | .bool value => value
  | .int value => value != 0
  | .float (.finite value) => value != 0
  | .float _ => true
  | .text value => value != ""
  | .array items => !items.isEmpty
  | .object fields => !fields.isEmpty

/-- `value == 0`. -/
def equalsZero : Json → Bool
  | .bool value => !value
  | .int value => value == 0
  | .float (.finite value) => value == 0
  | _ => false

/-- `value is True`. -/
def isTrue : Json → Bool
  | .bool value => value
  | _ => false

end Json

/-! ## Exceptions -/

/-- The classes of exceptions that the handlers tell apart. -/
inductive ExceptionKind where
  | osError
  | runtimeError
  | timeoutExpired
  | valueError
  | typeError
  | attributeError
  deriving Repr, DecidableEq

/-- An exception with its `repr`. -/
structure Raised where
  kind : ExceptionKind
  repr : String

/-- `RuntimeError(message)`. -/
def runtimeError (message : String) : Raised :=
  ⟨.runtimeError, "RuntimeError('" ++ message ++ "')"⟩

/-- `ValueError(message)`. -/
def valueError (message : String) : Raised :=
  ⟨.valueError, "ValueError('" ++ message ++ "')"⟩

/-- `TypeError(message)`. -/
def typeError (message : String) : Raised :=
  ⟨.typeError, "TypeError('" ++ message ++ "')"⟩

/-- `TimeoutError(message)`, which is an `OSError`. -/
def timeoutError (message : String) : Raised :=
  ⟨.osError, "TimeoutError('" ++ message ++ "')"⟩

/-- `AttributeError` for an attribute that the class of a value lacks. -/
def attributeError (className name : String) : Raised :=
  ⟨.attributeError,
    "AttributeError(\"'" ++ className ++ "' object has no attribute '" ++
      name ++ "'\")"⟩

/-- `TypeError` for a value that cannot be compared with a number. -/
def comparisonError (className : String) : Raised :=
  ⟨.typeError,
    "TypeError(\"'<' not supported between instances of '" ++ className ++
      "' and 'int'\")"⟩

/-! ## Transport -/

/-- The operations of the stage. -/
inductive Phase where
  | backendRevision
  | generatorRevision
  | deploy
  | prepare
  | manifestFromBackend
  | manifestToGenerator
  | preflight
  | observe
  | loadStart
  | loadStatus
  | loadStop
  | generatorEvidence
  | backendLoadDir
  | loadResultsToBackend
  | admissionGate
  | durabilityAudit
  | stopObservers
  | loadStopFinally
  | stopObserversFinally
  | rollback
  | backendEvidence
  | generatorCleanup
  | backendCleanup
  deriving Repr, DecidableEq

/-- The name under which an operation is logged. -/
def Phase.name : Phase → String
  | .backendRevision => "backend-revision"
  | .generatorRevision => "generator-revision"
  | .deploy => "deploy"
  | .prepare => "prepare"
  | .manifestFromBackend => "manifest-from-backend"
  | .manifestToGenerator => "manifest-to-generator"
  | .preflight => "preflight"
  | .observe => "observe"
  | .loadStart => "load-start"
  | .loadStatus => "load-status"
  | .loadStop => "load-stop"
  | .generatorEvidence => "generator-evidence"
  | .backendLoadDir => "backend-load-dir"
  | .loadResultsToBackend => "load-results-to-backend"
  | .admissionGate => "admission-gate"
  | .durabilityAudit => "durability-audit"
  | .stopObservers => "stop-observers"
  | .loadStopFinally => "load-stop-finally"
  | .stopObserversFinally => "stop-observers-finally"
  | .rollback => "rollback"
  | .backendEvidence => "backend-evidence"
  | .generatorCleanup => "generator-cleanup"
  | .backendCleanup => "backend-cleanup"

/-- What an operation may raise. -/
inductive TransportFailure where
  | osError
  | runtimeError
  | timeoutExpired
  deriving Repr, DecidableEq

def TransportFailure.kind : TransportFailure → ExceptionKind
  | .osError => .osError
  | .runtimeError => .runtimeError
  | .timeoutExpired => .timeoutExpired

/-- How the subprocess of an operation ends. -/
inductive Outcome where
  | completed (returncode : Int) (stdout stderr : String)
  | raised (failure : TransportFailure) (repr : String)
  deriving Repr, DecidableEq

/-- The operation succeeded. -/
def Outcome.succeeded : Outcome → Bool
  | .completed returncode _ _ => returncode == 0
  | .raised _ _ => false

/-- An operation that was tried. -/
structure Attempt where
  phase : Phase
  outcome : Outcome
  deriving Repr, DecidableEq

/-- The variables of `main`, the operations it tried and the logs it wrote. -/
structure StageState where
  attempts : List Attempt := []
  logs : List (Phase × String) := []
  completed : List String := []
  deployed : Bool := false
  observers : Bool := false
  loadStartAttempted : Bool := false
  loadExit : Option Int := none
  auditExit : Option Int := none
  admissionExit : Option Int := none
  sourceRevision : Option String := none
  error : Option String := none

/--
What happens to a stage: the outcome of each operation, those of the status
polls that are made before the deadline, how `json.loads` reads a text, and the
evidence that arrives.
-/
structure Environment where
  outcome : Phase → Outcome
  firstPoll : Outcome
  laterPolls : List Outcome
  loads : String → Except String Json
  summary : Option String
  durability : Option String
  admission : Option String
  rollback : Option String
  workerFiles : Nat
  workers : Nat

abbrev Stage (Value : Type) := Program StageState Raised Value

/-- The operations that were tried, in order. -/
def StageState.phases (state : StageState) : List Phase :=
  state.attempts.map Attempt.phase

/-- `subprocess.run` and `_record`. -/
def perform
    (phase : Phase)
    (outcome : Outcome) : Stage (Int × String) := do
  update fun state =>
    { state with attempts := state.attempts ++ [⟨phase, outcome⟩] }
  match outcome with
  | .completed returncode stdout stderr =>
      update fun state =>
        { state with
          logs := state.logs ++ [(phase, redact (stdout ++ stderr))] }
      pure (returncode, stdout)
  | .raised failure repr => raise ⟨failure.kind, repr⟩

/-- The message of an operation that returned with an error. -/
def exitMessage (label : String) (returncode : Int) : String :=
  label ++ " failed with exit code " ++ toString returncode

/-- `transport.remote(phase, ..., check=True)`. -/
def checked (phase : Phase) (outcome : Outcome) : Stage String := do
  let (returncode, stdout) ← perform phase outcome
  if returncode ≠ 0 then
    raise (runtimeError (exitMessage phase.name returncode))
  pure stdout

namespace Environment

variable (env : Environment)

/-- `transport.remote(phase, ...)`, `copy_from` and `copy_to`. -/
def remote (phase : Phase) : Stage String :=
  checked phase (env.outcome phase)

/-- `transport.remote(phase, ..., check=False)`. -/
def unchecked (phase : Phase) : Stage Int := do
  let (returncode, _) ← perform phase (env.outcome phase)
  pure returncode

end Environment

/-- `checkpoint(phase)`. -/
def checkpoint (phase : String) : Stage Unit :=
  update fun state => { state with completed := state.completed ++ [phase] }

/-! ## The body -/

/-- `re.fullmatch(r"[0-9a-f]{40}", revision)`. -/
def isRevision (revision : List Char) : Bool :=
  revision.length == 40 &&
    revision.all fun c =>
      ('0' ≤ c && c ≤ '9') || ('a' ≤ c && c ≤ 'f')

/-- What the handler around the load catches. -/
def ExceptionKind.caughtByLoad : ExceptionKind → Bool
  | .osError | .runtimeError | .typeError | .valueError
  | .timeoutExpired => true
  | .attributeError => false

/-- What the handler around the body catches. -/
def ExceptionKind.caughtByBody : ExceptionKind → Bool
  | .osError | .runtimeError | .timeoutExpired | .valueError => true
  | .typeError | .attributeError => false

/-- What `finish` catches. -/
def ExceptionKind.caughtByFinish : ExceptionKind → Bool
  | .osError | .runtimeError | .timeoutExpired => true
  | .valueError | .typeError | .attributeError => false

/-- `fields.get(key)`. -/
def lookup (fields : List (String × Json)) (key : String) : Json :=
  (fields.lookup key).getD .null

/-- The exit code of a finished load, and none of a running one. -/
def exitCode? (status : Json) : Except Raised (Option Int) :=
  match status with
  | .object fields =>
      match lookup fields "state" with
      | .text "finished" =>
          match lookup fields "exit_code" with
          | .int code =>
              if 0 ≤ code ∧ code ≤ 255 then
                .ok (some code)
              else
                .error (valueError "Malformed generator exit status")
          | _ => .error (valueError "Malformed generator exit status")
      | .text "running" => .ok none
      | _ => .error (valueError "Unexpected generator job state")
  | _ => .error (typeError "Malformed generator job status")

namespace Environment

variable (env : Environment)

def matchRevisions : Stage Unit := do
  let backend ← env.remote .backendRevision
  let generator ← env.remote .generatorRevision
  let backendRevision := strip backend.toList
  let generatorRevision := strip generator.toList
  if !isRevision backendRevision || backendRevision != generatorRevision then
    raise (runtimeError
      "Backend and generator source revisions do not match")
  update fun state =>
    { state with sourceRevision := some (String.ofList backendRevision) }
  checkpoint "revisions_matched"

def deployCandidate : Stage Unit := do
  update fun state => { state with deployed := true }
  let _ ← env.remote .deploy
  checkpoint "deployed"

def prepareFixture : Stage Unit := do
  let _ ← env.remote .prepare
  checkpoint "prepared"

def transferManifest : Stage Unit := do
  let _ ← env.remote .manifestFromBackend
  let _ ← env.remote .manifestToGenerator
  checkpoint "manifest_transferred"

def preflight : Stage Unit := do
  let _ ← env.remote .preflight
  checkpoint "preflight_passed"

def startObservers : Stage Unit := do
  let _ ← env.remote .observe
  update fun state => { state with observers := true }
  checkpoint "observers_started"

/-- `json.loads(text)`. -/
def parse (text : String) : Stage Json :=
  match env.loads text with
  | .ok value => pure value
  | .error repr => raise ⟨.valueError, repr⟩

/-- One round of the polling loop, and what follows if the load is running. -/
def pollOnce (outcome : Outcome) (again : Stage Unit) : Stage Unit := do
  let stdout ← checked .loadStatus outcome
  let status ← env.parse stdout
  match exitCode? status with
  | .ok (some code) =>
      update fun state => { state with loadExit := some code }
      checkpoint "load_finished"
  | .ok none => again
  | .error raised => raise raised

/-- The polling loop.  The deadline passes after the last poll. -/
def poll : Outcome → List Outcome → Stage Unit
  | outcome, [] =>
      env.pollOnce outcome
        (raise (timeoutError
          "Generator job exceeded its completion deadline"))
  | outcome, next :: later => env.pollOnce outcome (poll next later)

def startLoad : Stage Unit := do
  let _ ← env.remote .loadStart
  env.poll env.firstPoll env.laterPolls

/-- The handler around the load. -/
def loadFailed (raised : Raised) : Stage Unit := do
  update fun state =>
    { state with
      loadExit := some (-1)
      error := some ("Generator job failed: " ++ redact raised.repr) }
  checkpoint "load_failed"

def stopLoad : Stage Unit := do
  let returncode ← env.unchecked .loadStop
  if returncode ≠ 0 then
    raise (runtimeError (exitMessage "load-stop" returncode))

def runLoad : Stage Unit := do
  update fun state => { state with loadStartAttempted := true }
  cleanedUp
    (handle env.startLoad (fun raised => raised.kind.caughtByLoad) loadFailed)
    env.stopLoad

def collectEvidence : Stage Unit := do
  let _ ← env.remote .generatorEvidence
  if env.summary.isNone || env.workerFiles != env.workers then
    raise (runtimeError "Incomplete generator evidence")
  let _ ← env.remote .backendLoadDir
  let _ ← env.remote .loadResultsToBackend

def gateAdmission : Stage Unit := do
  let returncode ← env.unchecked .admissionGate
  update fun state => { state with admissionExit := some returncode }
  checkpoint "compact_results_collected"

def audit : Stage Unit := do
  let returncode ← env.unchecked .durabilityAudit
  update fun state => { state with auditExit := some returncode }
  checkpoint "audit_finished"

/-- `f"{error}; {reason}" if error else reason`. -/
def joinError (error : Option String) (reason : String) : Option String :=
  match error with
  | some earlier =>
      some (if earlier = "" then reason else earlier ++ "; " ++ reason)
  | none => some reason

def stopObservers : Stage Unit := do
  let returncode ← env.unchecked .stopObservers
  if returncode ≠ 0 then
    update fun state =>
      { state with
        error :=
          joinError state.error (exitMessage "stop-observers" returncode) }
  else
    update fun state => { state with observers := false }

/-- What comes before the load is stopped, and the stop itself. -/
def upToLoad : Stage Unit := do
  env.matchRevisions
  env.deployCandidate
  env.prepareFixture
  env.transferManifest
  env.preflight
  env.startObservers
  env.runLoad

def afterLoad : Stage Unit := do
  env.collectEvidence
  env.gateAdmission
  env.audit
  env.stopObservers

/-- The body of the outer `try`. -/
def body : Stage Unit := do
  env.upToLoad
  env.afterLoad

/-! ## The finalizer -/

/-- `finish(label, operation)`: the errors that it notes. -/
def finish (label : String) (phase : Phase) : Stage (List String) :=
  handle
    (do
      let returncode ← env.unchecked phase
      pure (if returncode ≠ 0 then [exitMessage label returncode] else []))
    (fun raised => raised.kind.caughtByFinish)
    (fun raised => pure [label ++ ": " ++ redact raised.repr])

/-- `finish` of an operation that copies, which raises for an exit code. -/
def finishCopy (label : String) (phase : Phase) : Stage (List String) :=
  handle
    (do
      let _ ← env.remote phase
      pure [])
    (fun raised => raised.kind.caughtByFinish)
    (fun raised => pure [label ++ ": " ++ redact raised.repr])

/-- `finish`, when a flag asks for it. -/
def finishIf
    (flag : Bool)
    (label : String)
    (phase : Phase) : Stage (List String) :=
  if flag then env.finish label phase else pure []

/-- The outer `finally`. -/
def finalizer : Stage Unit := do
  let state ← read
  let stopping ←
    env.finishIf state.loadStartAttempted "generator stop" .loadStopFinally
  let observing ←
    env.finishIf state.observers "stop observers" .stopObserversFinally
  let rolling ← env.finishIf state.deployed "rollback" .rollback
  let collecting ←
    env.finishCopy "collect backend evidence" .backendEvidence
  let generator ← env.finish "generator cleanup" .generatorCleanup
  let backend ← env.finish "backend cleanup" .backendCleanup
  let errors :=
    stopping ++ observing ++ rolling ++ collecting ++ generator ++ backend
  if errors ≠ [] then
    update fun state =>
      { state with error := joinError state.error ("; ".intercalate errors) }

/-- The handler around the body. -/
def stageFailed (raised : Raised) : Stage Unit :=
  update fun state => { state with error := some (redact raised.repr) }

/-- The stage up to its evaluation. -/
def stage : Stage Unit :=
  cleanedUp
    (handle env.body (fun raised => raised.kind.caughtByBody) stageFailed)
    env.finalizer

end Environment

/-! ## Evaluation -/

/-- `value.get(key)`. -/
def get (value : Json) (key : String) : Except Raised Json :=
  match value with
  | .object fields => .ok (lookup fields key)
  | other => .error (attributeError other.className "get")

/-- `(value or float("inf")) < limit`. -/
def below (value : Json) (limit : Int) : Except Raised Bool :=
  if value.truthy then
    match value with
    | .bool _ => .ok (decide (1 < limit))
    | .int number => .ok (decide (number < limit))
    | .float (.finite number) => .ok (decide (number < limit))
    | .float (.infinite negative) => .ok negative
    | .float .nan => .ok false
    | other => .error (comparisonError other.className)
  else
    .ok false

/-- `all(value == 0 for value in queues.values())`, unless there are none. -/
def drained (queues : Json) : Except Raised Bool :=
  if queues.truthy then
    match queues with
    | .object fields => .ok (fields.all fun entry => entry.2.equalsZero)
    | other => .error (attributeError other.className "values")
  else
    .ok false

/-- `admission_exit == 0 and admission.get("admission_rejections") == 0`. -/
def admissionZero
    (admission : Json)
    (admissionExit : Option Int) : Except Raised Bool :=
  if admissionExit = some 0 then
    (get admission "admission_rejections").map Json.equalsZero
  else
    .ok false

/-- The fields that `request_summary` copies. -/
def requestSummaryKeys : List String :=
  ["rate", "seconds", "reservation_mode", "generator_drops",
    "worst_worker_read_p95_ms", "worst_worker_hold_p95_ms",
    "late_deliveries", "physical_http_attempts", "first_attempt_failures",
    "retry_attempts", "retry_successes", "retry_exhausted"]

/-- What `evaluate` returns. -/
structure Evaluation where
  gates : List (String × Bool)
  requestSummary : List (String × Json)
  admissionRejections : Json
  auditedHolds : Json
  overlappingLoadHoldIntervals : Json

/-- `all(gates.values())`. -/
def allPass (gates : List (String × Bool)) : Bool :=
  gates.all fun gate => gate.2

namespace Environment

variable (env : Environment)

/-- `load_json(path) if path.exists() else {}`. -/
def evidence (file : Option String) : Except Raised Json :=
  match file with
  | none => .ok (.object [])
  | some text =>
      match env.loads text with
      | .ok value => .ok value
      | .error repr => .error ⟨.valueError, repr⟩

/-- `evaluate(output, load_exit, audit_exit, admission_exit)`. -/
def evaluate
    (loadExit auditExit admissionExit : Option Int) :
    Except Raised Evaluation := do
  let summary ← env.evidence env.summary
  let durability ← env.evidence env.durability
  let admission ← env.evidence env.admission
  let rollback ← env.evidence env.rollback
  let workload ← get summary "workload_gate_pass"
  let drops ← get summary "generator_drops"
  let transportErrors ← get summary "transport_errors"
  let readP95 ← get summary "worst_worker_read_p95_ms"
  let readBelow ← below readP95 150
  let holdP95 ← get summary "worst_worker_hold_p95_ms"
  let holdBelow ← below holdP95 300
  let admitted ← admissionZero admission admissionExit
  let durable ← get durability "durability_and_expiry_pass"
  let overlapping ← get durability "overlapping_load_hold_intervals"
  let queues ← get durability "queues_snapshot"
  let queuesDrained ← drained queues
  let restored ← get rollback "pass"
  let requestSummary ← requestSummaryKeys.mapM fun key => do
    let value ← get summary key
    pure (key, value)
  let rejections ← get admission "admission_rejections"
  let auditedHolds ← get durability "audited_holds"
  pure {
    gates :=
      [("load_exit_zero", loadExit == some 0),
        ("workload", workload.isTrue),
        ("generator_drops_zero", drops.equalsZero),
        ("transport_errors_zero", !transportErrors.truthy),
        ("read_p95", readBelow),
        ("hold_p95", holdBelow),
        ("admission_zero", admitted),
        ("audit_exit_zero", auditExit == some 0),
        ("durability", durable.isTrue),
        ("overlap_zero", overlapping.equalsZero),
        ("queues_drained", queuesDrained),
        ("rollback", restored.isTrue)]
    requestSummary := requestSummary
    admissionRejections := rejections
    auditedHolds := auditedHolds
    overlappingLoadHoldIntervals := overlapping }

end Environment

/-- What `main` writes to `stage-result.json`. -/
structure StageResult where
  evaluation : Evaluation
  gates : List (String × Bool)
  pass : Bool
  sourceRevision : Option String
  error : Option String
  completedPhases : List String

/-- `raise SystemExit(1)` if there is an error or a gate does not hold. -/
def StageResult.exitStatus (result : StageResult) : Nat :=
  if result.error.any (fun error => error != "") || !result.pass then 1 else 0

/-- The result, from the evaluation and the state that the stage ends in. -/
def StageState.result
    (state : StageState)
    (evaluation : Evaluation) : StageResult :=
  let gates :=
    evaluation.gates ++ [("execution_and_cleanup", state.error.isNone)]
  { evaluation := evaluation
    gates := gates
    pass := allPass gates
    sourceRevision := state.sourceRevision
    error := state.error
    completedPhases := state.completed }

/-- `main()`, after its arguments. -/
def Environment.main
    (env : Environment) : Except Raised StageResult × StageState :=
  match env.stage {} with
  | (.error raised, state) => (.error raised, state)
  | (.ok (), state) =>
      ((env.evaluate state.loadExit state.auditExit state.admissionExit).map
        state.result, state)

end FlashTicketing.CapacityStage
