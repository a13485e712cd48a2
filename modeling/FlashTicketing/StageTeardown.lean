import FlashTicketing.CapacityStage
import FlashTicketing.Checked

namespace FlashTicketing.CapacityStage

open Raising Program

/-!
# Teardown of the capacity stage

Whatever the operations do, the finalizer tries its own operations one after the
other, and its flags are true to what was tried before.  A stage that passes has
returned from every operation without an error.
-/

/-! ## What the operations keep -/

/-- A property that does not look at the logs and the checkpoints. -/
structure Unlogged (property : StageState → Prop) : Prop where
  logs :
    ∀ state logs, property state → property { state with logs := logs }
  completed :
    ∀ state completed,
      property state → property { state with completed := completed }

/-- A property that no assignment of the body breaks. -/
structure Steady (property : StageState → Prop) : Prop
    extends Unlogged property where
  sourceRevision :
    ∀ state revision,
      property state → property { state with sourceRevision := revision }
  deployed :
    ∀ state, property state → property { state with deployed := true }
  observers :
    ∀ state flag, property state → property { state with observers := flag }
  loadStartAttempted :
    ∀ state,
      property state → property { state with loadStartAttempted := true }
  loadExit :
    ∀ state code, property state → property { state with loadExit := code }
  admissionExit :
    ∀ state code,
      property state → property { state with admissionExit := code }
  auditExit :
    ∀ state code, property state → property { state with auditExit := code }
  error :
    ∀ state reason,
      property state → property { state with error := some reason }

/-- The property survives an attempt at the operation. -/
def Admits (property : StageState → Prop) (phase : Phase) : Prop :=
  ∀ state outcome,
    property state →
    property { state with attempts := state.attempts ++ [⟨phase, outcome⟩] }

section Keeps

variable
  {property : StageState → Prop}
  {phase : Phase}
  (unlogged : Unlogged property)

include unlogged

theorem keeps_checkpoint (name : String) :
    Keeps property (checkpoint name) :=
  Keeps.update fun state holds => unlogged.completed state _ holds

theorem keeps_perform
    (admits : Admits property phase)
    (outcome : Outcome) :
    Keeps property (perform phase outcome) := by
  apply Keeps.bind
  · exact Keeps.update fun state holds => admits state outcome holds
  · intro _
    cases outcome with
    | completed returncode stdout stderr =>
        apply Keeps.bind
        · exact Keeps.update fun state holds => unlogged.logs state _ holds
        · exact fun _ => Keeps.done _
    | raised failure repr => exact Keeps.raise _

theorem keeps_checked
    (admits : Admits property phase)
    (outcome : Outcome) :
    Keeps property (checked phase outcome) := by
  apply Keeps.bind (keeps_perform unlogged admits outcome)
  rintro ⟨returncode, stdout⟩
  dsimp only
  split
  · exact Keeps.raise_bind _ _
  · exact Keeps.done _

theorem keeps_remote
    (admits : Admits property phase)
    (env : Environment) :
    Keeps property (env.remote phase) :=
  keeps_checked unlogged admits _

theorem keeps_unchecked
    (admits : Admits property phase)
    (env : Environment) :
    Keeps property (env.unchecked phase) := by
  apply Keeps.bind (keeps_perform unlogged admits _)
  rintro ⟨returncode, stdout⟩
  exact Keeps.done _

end Keeps

/-- The operations up to the stop of the load. -/
def loadPhases : List Phase :=
  [.backendRevision, .generatorRevision, .deploy, .prepare,
    .manifestFromBackend, .manifestToGenerator, .preflight, .observe,
    .loadStart, .loadStatus, .loadStop]

/-- The operations of the body after it. -/
def auditPhases : List Phase :=
  [.generatorEvidence, .backendLoadDir, .loadResultsToBackend, .admissionGate,
    .durabilityAudit, .stopObservers]

/-- The operations of the finalizer. -/
def finalPhases : List Phase :=
  [.loadStopFinally, .stopObserversFinally, .rollback, .backendEvidence,
    .generatorCleanup, .backendCleanup]

/-- An attempt at an operation, after the flag that announces it is set. -/
def Announced (property : StageState → Prop) (phase : Phase) : Prop :=
  ∀ state outcome,
    property state →
    (phase = .deploy → state.deployed = true) →
    (phase = .loadStart → state.loadStartAttempted = true) →
    property { state with attempts := state.attempts ++ [⟨phase, outcome⟩] }

/-- Most operations have no flag. -/
theorem Announced.admits
    {property : StageState → Prop}
    {phase : Phase}
    (announced : Announced property phase)
    (plain : phase ≠ .deploy ∧ phase ≠ .loadStart) :
    Admits property phase := by
  intro state outcome holds
  exact announced state outcome holds
    (fun isDeploy => absurd isDeploy plain.1)
    (fun isStart => absurd isStart plain.2)

/-- One operation and its checkpoint. -/
theorem keeps_remote_checkpoint
    {property : StageState → Prop}
    {phase : Phase}
    (unlogged : Unlogged property)
    (admits : Admits property phase)
    (env : Environment)
    (name : String) :
    Keeps property (do
      let _ ← env.remote phase
      checkpoint name) := by
  apply Keeps.bind (keeps_remote unlogged admits env)
  exact fun _ => keeps_checkpoint unlogged name

theorem joinError_eq_some (error : Option String) (reason : String) :
    ∃ joined, Environment.joinError error reason = some joined := by
  cases error with
  | none => exact ⟨_, rfl⟩
  | some earlier => exact ⟨_, rfl⟩

section Body

variable
  {property : StageState → Prop}
  (steady : Steady property)
  (env : Environment)

include steady

theorem keeps_matchRevisions
    (backend : Admits property .backendRevision)
    (generator : Admits property .generatorRevision) :
    Keeps property env.matchRevisions := by
  apply Keeps.bind (keeps_remote steady.toUnlogged backend env)
  intro _
  apply Keeps.bind (keeps_remote steady.toUnlogged generator env)
  intro _
  dsimp only
  split
  · exact Keeps.raise_bind _ _
  · apply Keeps.bind
    · exact Keeps.update fun state holds => steady.sourceRevision state _ holds
    · exact fun _ => keeps_checkpoint steady.toUnlogged _

theorem keeps_deployCandidate
    (announced : Announced property .deploy) :
    Keeps property env.deployCandidate := by
  let flagged (state : StageState) : Prop :=
    property state ∧ state.deployed = true
  have unlogged : Unlogged flagged := {
    logs := fun state logs both => ⟨steady.logs state logs both.1, both.2⟩
    completed := fun state names both =>
      ⟨steady.completed state names both.1, both.2⟩ }
  have admits : Admits flagged .deploy := by
    intro state outcome both
    exact ⟨announced state outcome both.1 (fun _ => both.2) nofun, both.2⟩
  intro state holds
  have kept : Keeps flagged (do
      let _ ← env.remote .deploy
      checkpoint "deployed") :=
    keeps_remote_checkpoint unlogged admits env _
  exact (kept _ ⟨steady.deployed state holds, rfl⟩).1

theorem keeps_transferManifest
    (fromBackend : Admits property .manifestFromBackend)
    (toGenerator : Admits property .manifestToGenerator) :
    Keeps property env.transferManifest := by
  apply Keeps.bind (keeps_remote steady.toUnlogged fromBackend env)
  exact fun _ =>
    keeps_remote_checkpoint steady.toUnlogged toGenerator env _

theorem keeps_startObservers
    (admits : Admits property .observe) :
    Keeps property env.startObservers := by
  apply Keeps.bind (keeps_remote steady.toUnlogged admits env)
  intro _
  apply Keeps.bind
  · exact Keeps.update fun state holds => steady.observers state _ holds
  · exact fun _ => keeps_checkpoint steady.toUnlogged _

theorem keeps_pollOnce
    (admits : Admits property .loadStatus)
    (outcome : Outcome)
    {again : Stage Unit}
    (next : Keeps property again) :
    Keeps property (env.pollOnce outcome again) := by
  apply Keeps.bind (keeps_checked steady.toUnlogged admits outcome)
  intro stdout
  apply Keeps.bind
  · unfold Environment.parse
    split
    · exact Keeps.done _
    · exact Keeps.raise _
  · intro status
    split
    · apply Keeps.bind
      · exact Keeps.update fun state holds => steady.loadExit state _ holds
      · exact fun _ => keeps_checkpoint steady.toUnlogged _
    · exact next
    · exact Keeps.raise _

theorem keeps_poll
    (admits : Admits property .loadStatus)
    (outcome : Outcome)
    (later : List Outcome) :
    Keeps property (env.poll outcome later) := by
  induction later generalizing outcome with
  | nil => exact keeps_pollOnce steady env admits outcome (Keeps.raise _)
  | cons next rest inductionHypothesis =>
      exact keeps_pollOnce steady env admits outcome (inductionHypothesis next)

theorem keeps_stopLoad
    (admits : Admits property .loadStop) :
    Keeps property env.stopLoad := by
  apply Keeps.bind (keeps_unchecked steady.toUnlogged admits env)
  intro returncode
  split
  · exact Keeps.raise _
  · exact Keeps.done _

theorem keeps_loadFailed (raised : Raised) :
    Keeps property (Environment.loadFailed raised) := by
  apply Keeps.bind
  · apply Keeps.update
    intro state holds
    exact steady.error { state with loadExit := some (-1) } _
      (steady.loadExit state (some (-1)) holds)
  · exact fun _ => keeps_checkpoint steady.toUnlogged _

theorem keeps_runLoad
    (announced : Announced property .loadStart)
    (status : Admits property .loadStatus)
    (stop : Admits property .loadStop) :
    Keeps property env.runLoad := by
  let flagged (state : StageState) : Prop :=
    property state ∧ state.loadStartAttempted = true
  have steadyFlag : Steady flagged := {
    logs := fun state logs both => ⟨steady.logs state logs both.1, both.2⟩
    completed := fun state names both =>
      ⟨steady.completed state names both.1, both.2⟩
    sourceRevision := fun state revision both =>
      ⟨steady.sourceRevision state revision both.1, both.2⟩
    deployed := fun state both => ⟨steady.deployed state both.1, both.2⟩
    observers := fun state flag both =>
      ⟨steady.observers state flag both.1, both.2⟩
    loadStartAttempted := fun state both =>
      ⟨steady.loadStartAttempted state both.1, rfl⟩
    loadExit := fun state code both =>
      ⟨steady.loadExit state code both.1, both.2⟩
    admissionExit := fun state code both =>
      ⟨steady.admissionExit state code both.1, both.2⟩
    auditExit := fun state code both =>
      ⟨steady.auditExit state code both.1, both.2⟩
    error := fun state reason both =>
      ⟨steady.error state reason both.1, both.2⟩ }
  have starts : Keeps flagged env.startLoad := by
    apply Keeps.bind
    · apply keeps_remote steadyFlag.toUnlogged
      intro state outcome both
      exact ⟨announced state outcome both.1 nofun (fun _ => both.2), both.2⟩
    · intro _
      apply keeps_poll steadyFlag
      exact fun state outcome both => ⟨status state outcome both.1, both.2⟩
  have stops : Keeps flagged env.stopLoad :=
    keeps_stopLoad steadyFlag env fun state outcome both =>
      ⟨stop state outcome both.1, both.2⟩
  have ends :=
    Keeps.cleanedUp
      (Keeps.handle starts (keeps_loadFailed steadyFlag)
        fun raised => raised.kind.caughtByLoad) stops
  intro state holds
  exact (ends _ ⟨steady.loadStartAttempted state holds, rfl⟩).1

theorem keeps_collectEvidence
    (evidence : Admits property .generatorEvidence)
    (directory : Admits property .backendLoadDir)
    (results : Admits property .loadResultsToBackend) :
    Keeps property env.collectEvidence := by
  apply Keeps.bind (keeps_remote steady.toUnlogged evidence env)
  intro _
  split
  · exact Keeps.raise_bind _ _
  · apply Keeps.bind (keeps_remote steady.toUnlogged directory env)
    intro _
    apply Keeps.bind (keeps_remote steady.toUnlogged results env)
    exact fun _ => Keeps.done _

theorem keeps_gateAdmission
    (admits : Admits property .admissionGate) :
    Keeps property env.gateAdmission := by
  apply Keeps.bind (keeps_unchecked steady.toUnlogged admits env)
  intro returncode
  apply Keeps.bind
  · exact Keeps.update fun state holds => steady.admissionExit state _ holds
  · exact fun _ => keeps_checkpoint steady.toUnlogged _

theorem keeps_audit
    (admits : Admits property .durabilityAudit) :
    Keeps property env.audit := by
  apply Keeps.bind (keeps_unchecked steady.toUnlogged admits env)
  intro returncode
  apply Keeps.bind
  · exact Keeps.update fun state holds => steady.auditExit state _ holds
  · exact fun _ => keeps_checkpoint steady.toUnlogged _

theorem keeps_stopObservers
    (admits : Admits property .stopObservers) :
    Keeps property env.stopObservers := by
  apply Keeps.bind (keeps_unchecked steady.toUnlogged admits env)
  intro returncode
  split
  · apply Keeps.update
    intro state holds
    obtain ⟨joined, isJoined⟩ :=
      joinError_eq_some state.error (exitMessage "stop-observers" returncode)
    rw [isJoined]
    exact steady.error state joined holds
  · exact Keeps.update fun state holds => steady.observers state _ holds

/-- What every operation up to the stop of the load keeps, they all keep. -/
theorem keeps_upToLoad
    (announced : ∀ phase ∈ loadPhases, Announced property phase) :
    Keeps property env.upToLoad := by
  apply Keeps.bind
  · apply keeps_matchRevisions steady env
    · exact (announced _ (by decide)).admits (by decide)
    · exact (announced _ (by decide)).admits (by decide)
  intro _
  apply Keeps.bind
  · exact keeps_deployCandidate steady env (announced _ (by decide))
  intro _
  apply Keeps.bind
  · apply keeps_remote_checkpoint steady.toUnlogged
    exact (announced _ (by decide)).admits (by decide)
  intro _
  apply Keeps.bind
  · apply keeps_transferManifest steady env
    · exact (announced _ (by decide)).admits (by decide)
    · exact (announced _ (by decide)).admits (by decide)
  intro _
  apply Keeps.bind
  · apply keeps_remote_checkpoint steady.toUnlogged
    exact (announced _ (by decide)).admits (by decide)
  intro _
  apply Keeps.bind
  · apply keeps_startObservers steady env
    exact (announced _ (by decide)).admits (by decide)
  intro _
  apply keeps_runLoad steady env
  · exact announced _ (by decide)
  · exact (announced _ (by decide)).admits (by decide)
  · exact (announced _ (by decide)).admits (by decide)

theorem keeps_afterLoad
    (admits : ∀ phase ∈ auditPhases, Admits property phase) :
    Keeps property env.afterLoad := by
  apply Keeps.bind
  · apply keeps_collectEvidence steady env
    · exact admits _ (by decide)
    · exact admits _ (by decide)
    · exact admits _ (by decide)
  intro _
  apply Keeps.bind
  · exact keeps_gateAdmission steady env (admits _ (by decide))
  intro _
  apply Keeps.bind
  · exact keeps_audit steady env (admits _ (by decide))
  intro _
  exact keeps_stopObservers steady env (admits _ (by decide))

end Body

/-! ## The flags -/

theorem phases_attempt
    (state : StageState)
    (attempt : Attempt) :
    { state with attempts := state.attempts ++ [attempt] : StageState }.phases =
      state.phases ++ [attempt.phase] :=
  List.map_append

/-- The flags are true to the operations, and none of the finalizer was tried. -/
structure Flagged (state : StageState) : Prop where
  deployed : .deploy ∈ state.phases → state.deployed = true
  started : .loadStart ∈ state.phases → state.loadStartAttempted = true
  early : ∀ phase ∈ state.phases, phase ∉ finalPhases

theorem Flagged.steady : Steady Flagged where
  logs _ _ flagged := ⟨flagged.deployed, flagged.started, flagged.early⟩
  completed _ _ flagged := ⟨flagged.deployed, flagged.started, flagged.early⟩
  sourceRevision _ _ flagged :=
    ⟨flagged.deployed, flagged.started, flagged.early⟩
  deployed _ flagged := ⟨fun _ => rfl, flagged.started, flagged.early⟩
  observers _ _ flagged := ⟨flagged.deployed, flagged.started, flagged.early⟩
  loadStartAttempted _ flagged :=
    ⟨flagged.deployed, fun _ => rfl, flagged.early⟩
  loadExit _ _ flagged := ⟨flagged.deployed, flagged.started, flagged.early⟩
  admissionExit _ _ flagged :=
    ⟨flagged.deployed, flagged.started, flagged.early⟩
  auditExit _ _ flagged := ⟨flagged.deployed, flagged.started, flagged.early⟩
  error _ _ flagged := ⟨flagged.deployed, flagged.started, flagged.early⟩

theorem Flagged.announced
    {phase : Phase}
    (notFinal : phase ∉ finalPhases) :
    Announced Flagged phase := by
  intro state outcome flagged deployed started
  constructor
  · intro member
    rw [phases_attempt] at member
    rcases List.mem_append.mp member with earlier | now
    · exact flagged.deployed earlier
    · exact deployed (List.mem_singleton.mp now).symm
  · intro member
    rw [phases_attempt] at member
    rcases List.mem_append.mp member with earlier | now
    · exact flagged.started earlier
    · exact started (List.mem_singleton.mp now).symm
  · intro other member
    rw [phases_attempt] at member
    rcases List.mem_append.mp member with earlier | now
    · exact flagged.early other earlier
    · cases List.mem_singleton.mp now
      exact notFinal

/-- The body leaves the flags true to what it tried. -/
theorem Flagged.body (env : Environment) :
    Keeps Flagged env.body := by
  apply Keeps.bind
  · apply keeps_upToLoad Flagged.steady
    intro phase member
    apply Flagged.announced
    revert phase
    decide
  · intro _
    apply keeps_afterLoad Flagged.steady
    intro phase member
    apply (Flagged.announced _).admits
    · revert phase
      decide
    · revert phase
      decide

/-! ## Operations that returned -/

/-- From one state to the next by operations that all succeeded. -/
structure Advanced
    (new : List Attempt)
    (before after : StageState) : Prop where
  attempts : after.attempts = before.attempts ++ new
  succeeded : ∀ attempt ∈ new, attempt.outcome.succeeded = true
  error : after.error = before.error
  admissionExit : after.admissionExit = before.admissionExit
  auditExit : after.auditExit = before.auditExit

/-- Nothing was tried. -/
theorem Advanced.nothing
    {before after : StageState}
    (attempts : after.attempts = before.attempts)
    (error : after.error = before.error)
    (admissionExit : after.admissionExit = before.admissionExit)
    (auditExit : after.auditExit = before.auditExit) :
    Advanced [] before after where
  attempts := attempts.trans (List.append_nil _).symm
  succeeded _ member := absurd member List.not_mem_nil
  error := error
  admissionExit := admissionExit
  auditExit := auditExit

theorem Advanced.trans
    {early late : List Attempt}
    {first second third : StageState}
    (before : Advanced early first second)
    (after : Advanced late second third) :
    Advanced (early ++ late) first third where
  attempts := by
    rw [after.attempts, before.attempts, List.append_assoc]
  succeeded attempt member := by
    rcases List.mem_append.mp member with isEarly | isLate
    · exact before.succeeded attempt isEarly
    · exact after.succeeded attempt isLate
  error := after.error.trans before.error
  admissionExit := after.admissionExit.trans before.admissionExit
  auditExit := after.auditExit.trans before.auditExit

/-- The attempt at an operation with a fixed outcome. -/
def Environment.attempt (env : Environment) (phase : Phase) : Attempt :=
  ⟨phase, env.outcome phase⟩

section Returned

variable
  {env : Environment}
  {phase : Phase}
  {state after : StageState}

theorem perform_eq_ok
    {outcome : Outcome}
    {returncode : Int}
    {stdout : String}
    (returned : perform phase outcome state = (.ok (returncode, stdout), after)) :
    ∃ stderr,
      outcome = .completed returncode stdout stderr ∧
        after =
          { state with
            attempts := state.attempts ++ [⟨phase, outcome⟩]
            logs := state.logs ++ [(phase, redact (stdout ++ stderr))] } := by
  cases outcome with
  | raised failure repr => cases returned
  | completed code out err =>
      cases returned
      exact ⟨err, rfl, rfl⟩

theorem checked_eq_ok
    {outcome : Outcome}
    {stdout : String}
    (returned : checked phase outcome state = (.ok stdout, after)) :
    Advanced [⟨phase, outcome⟩] state after := by
  obtain ⟨⟨returncode, out⟩, middle, ran, rest⟩ := bind_eq_ok returned
  obtain ⟨stderr, rfl, rfl⟩ := perform_eq_ok ran
  by_cases failed : returncode ≠ 0
  · simp only [if_pos failed] at rest
    cases rest
  · simp only [if_neg failed] at rest
    cases rest
    have isZero : returncode = 0 := not_not.mp failed
    constructor
    · rfl
    · intro attempt member
      cases List.mem_singleton.mp member
      exact beq_iff_eq.mpr isZero
    · rfl
    · rfl
    · rfl

theorem remote_eq_ok
    {stdout : String}
    (returned : env.remote phase state = (.ok stdout, after)) :
    Advanced [env.attempt phase] state after :=
  checked_eq_ok returned

theorem unchecked_eq_ok
    {returncode : Int}
    (returned : env.unchecked phase state = (.ok returncode, after)) :
    ∃ stdout stderr,
      env.outcome phase = .completed returncode stdout stderr ∧
        after =
          { state with
            attempts := state.attempts ++ [env.attempt phase]
            logs := state.logs ++ [(phase, redact (stdout ++ stderr))] } := by
  obtain ⟨⟨code, out⟩, middle, ran, rest⟩ := bind_eq_ok returned
  cases rest
  obtain ⟨stderr, isOutcome, rfl⟩ := perform_eq_ok ran
  exact ⟨out, stderr, isOutcome, rfl⟩

theorem remote_checkpoint_eq_ok
    {name : String}
    (returned :
      (do
        let _ ← env.remote phase
        checkpoint name : Stage Unit) state = (.ok (), after)) :
    Advanced [env.attempt phase] state after := by
  obtain ⟨_, middle, ran, rest⟩ := bind_eq_ok returned
  cases rest
  have advanced := remote_eq_ok ran
  exact ⟨advanced.attempts, advanced.succeeded, advanced.error,
    advanced.admissionExit, advanced.auditExit⟩

theorem matchRevisions_eq_ok
    (returned : env.matchRevisions state = (.ok (), after)) :
    Advanced [env.attempt .backendRevision, env.attempt .generatorRevision]
      state after := by
  obtain ⟨backend, first, ranFirst, rest⟩ := bind_eq_ok returned
  obtain ⟨generator, second, ranSecond, rest⟩ := bind_eq_ok rest
  have advanced := (remote_eq_ok ranFirst).trans (remote_eq_ok ranSecond)
  dsimp only at rest
  split at rest
  · cases rest
  · cases rest
    exact ⟨advanced.attempts, advanced.succeeded, advanced.error,
      advanced.admissionExit, advanced.auditExit⟩

theorem deployCandidate_eq_ok
    (returned : env.deployCandidate state = (.ok (), after)) :
    Advanced [env.attempt .deploy] state after := by
  obtain ⟨_, middle, ran, rest⟩ := bind_eq_ok returned
  cases ran
  have advanced := remote_checkpoint_eq_ok rest
  exact ⟨advanced.attempts, advanced.succeeded, advanced.error,
    advanced.admissionExit, advanced.auditExit⟩

theorem transferManifest_eq_ok
    (returned : env.transferManifest state = (.ok (), after)) :
    Advanced
      [env.attempt .manifestFromBackend, env.attempt .manifestToGenerator]
      state after := by
  obtain ⟨_, middle, ran, rest⟩ := bind_eq_ok returned
  exact (remote_eq_ok ran).trans (remote_checkpoint_eq_ok rest)

theorem startObservers_eq_ok
    (returned : env.startObservers state = (.ok (), after)) :
    Advanced [env.attempt .observe] state after := by
  obtain ⟨_, middle, ran, rest⟩ := bind_eq_ok returned
  cases rest
  have advanced := remote_eq_ok ran
  exact ⟨advanced.attempts, advanced.succeeded, advanced.error,
    advanced.admissionExit, advanced.auditExit⟩

theorem collectEvidence_eq_ok
    (returned : env.collectEvidence state = (.ok (), after)) :
    Advanced
      [env.attempt .generatorEvidence, env.attempt .backendLoadDir,
        env.attempt .loadResultsToBackend] state after := by
  obtain ⟨_, first, ranFirst, rest⟩ := bind_eq_ok returned
  split at rest
  · cases rest
  · obtain ⟨_, second, ranSecond, rest⟩ := bind_eq_ok rest
    obtain ⟨_, third, ranThird, rest⟩ := bind_eq_ok rest
    cases rest
    exact (remote_eq_ok ranFirst).trans
      ((remote_eq_ok ranSecond).trans (remote_eq_ok ranThird))

theorem parse_eq_ok
    {text : String}
    {value : Json}
    (returned : env.parse text state = (.ok value, after)) :
    after = state := by
  unfold Environment.parse at returned
  cases loaded : env.loads text with
  | ok _ =>
      rw [loaded] at returned
      cases returned
      rfl
  | error _ =>
      rw [loaded] at returned
      cases returned

/-- One round that returns has a status that ends the load, or goes on. -/
theorem pollOnce_eq_ok
    {outcome : Outcome}
    {again : Stage Unit}
    (returned : env.pollOnce outcome again state = (.ok (), after)) :
    ∃ middle,
      Advanced [⟨.loadStatus, outcome⟩] state middle ∧
        (Advanced [] middle after ∨ again middle = (.ok (), after)) := by
  obtain ⟨stdout, middle, ran, rest⟩ := bind_eq_ok returned
  obtain ⟨status, parsed, isParsed, judged⟩ := bind_eq_ok rest
  cases parse_eq_ok isParsed
  refine ⟨middle, checked_eq_ok ran, ?_⟩
  cases isCode : exitCode? status with
  | error raised =>
      rw [isCode] at judged
      cases judged
  | ok code =>
      rw [isCode] at judged
      cases code with
      | none => exact Or.inr judged
      | some finished =>
          cases judged
          exact Or.inl (Advanced.nothing rfl rfl rfl rfl)

theorem poll_eq_ok
    {outcome : Outcome}
    {later : List Outcome}
    (returned : env.poll outcome later state = (.ok (), after)) :
    ∃ polls, Advanced (⟨.loadStatus, outcome⟩ :: polls) state after := by
  induction later generalizing outcome state with
  | nil =>
      obtain ⟨middle, asked, finished | again⟩ := pollOnce_eq_ok returned
      · exact ⟨[], asked.trans finished⟩
      · cases again
  | cons next rest inductionHypothesis =>
      obtain ⟨middle, asked, finished | again⟩ := pollOnce_eq_ok returned
      · exact ⟨[], asked.trans finished⟩
      · obtain ⟨polls, advanced⟩ := inductionHypothesis again
        exact ⟨⟨.loadStatus, next⟩ :: polls, asked.trans advanced⟩

theorem stopLoad_eq_ok
    (returned : env.stopLoad state = (.ok (), after)) :
    Advanced [env.attempt .loadStop] state after := by
  obtain ⟨returncode, middle, ran, rest⟩ := bind_eq_ok returned
  obtain ⟨stdout, stderr, isOutcome, rfl⟩ := unchecked_eq_ok ran
  split at rest
  · cases rest
  · rename_i succeeded
    cases rest
    refine ⟨rfl, ?_, rfl, rfl, rfl⟩
    intro attempt member
    cases List.mem_singleton.mp member
    rw [Environment.attempt, isOutcome]
    exact beq_iff_eq.mpr (not_not.mp succeeded)

/-- A load that returned was stopped with success. -/
theorem runLoad_stopped
    (returned : env.runLoad state = (.ok (), after)) :
    env.attempt .loadStop ∈ after.attempts ∧
      (env.outcome .loadStop).succeeded = true := by
  obtain ⟨_, flagged, ran, rest⟩ := bind_eq_ok returned
  obtain ⟨middle, _, stopped⟩ := cleanedUp_eq_ok rest
  have advanced := stopLoad_eq_ok stopped
  constructor
  · rw [advanced.attempts]
    exact List.mem_append_right _ (List.mem_singleton_self _)
  · exact advanced.succeeded _ (List.mem_singleton_self _)

/-- Without an error, the load was started and asked for its status too. -/
theorem runLoad_eq_ok
    (returned : env.runLoad state = (.ok (), after))
    (clean : after.error = none) :
    ∃ polls,
      Advanced
        (env.attempt .loadStart :: ⟨.loadStatus, env.firstPoll⟩ ::
          (polls ++ [env.attempt .loadStop])) state after := by
  obtain ⟨_, flagged, ran, rest⟩ := bind_eq_ok returned
  cases ran
  obtain ⟨middle, handled, stopped⟩ := cleanedUp_eq_ok rest
  have stop := stopLoad_eq_ok stopped
  rcases handle_eq_ok handled with started | ⟨raised, failed, _, caught⟩
  · obtain ⟨_, asked, ranStart, polled⟩ := bind_eq_ok started
    obtain ⟨polls, polling⟩ := poll_eq_ok polled
    have advanced := (remote_eq_ok ranStart).trans (polling.trans stop)
    refine ⟨polls, ?_⟩
    exact ⟨advanced.attempts, advanced.succeeded, advanced.error,
      advanced.admissionExit, advanced.auditExit⟩
  · cases caught
    rw [stop.error] at clean
    cases clean

theorem gateAdmission_eq_ok
    (returned : env.gateAdmission state = (.ok (), after)) :
    after.attempts = state.attempts ++ [env.attempt .admissionGate] ∧
      after.error = state.error ∧
      after.auditExit = state.auditExit ∧
      (after.admissionExit = some 0 →
        (env.outcome .admissionGate).succeeded = true) := by
  obtain ⟨returncode, middle, ran, rest⟩ := bind_eq_ok returned
  obtain ⟨stdout, stderr, isOutcome, rfl⟩ := unchecked_eq_ok ran
  cases rest
  refine ⟨rfl, rfl, rfl, ?_⟩
  intro isZero
  cases isZero
  rw [isOutcome]
  rfl

theorem audit_eq_ok
    (returned : env.audit state = (.ok (), after)) :
    after.attempts = state.attempts ++ [env.attempt .durabilityAudit] ∧
      after.error = state.error ∧
      after.admissionExit = state.admissionExit ∧
      (after.auditExit = some 0 →
        (env.outcome .durabilityAudit).succeeded = true) := by
  obtain ⟨returncode, middle, ran, rest⟩ := bind_eq_ok returned
  obtain ⟨stdout, stderr, isOutcome, rfl⟩ := unchecked_eq_ok ran
  cases rest
  refine ⟨rfl, rfl, rfl, ?_⟩
  intro isZero
  cases isZero
  rw [isOutcome]
  rfl

theorem stopObservers_eq_ok
    (returned : env.stopObservers state = (.ok (), after))
    (clean : after.error = none) :
    Advanced [env.attempt .stopObservers] state after := by
  obtain ⟨returncode, middle, ran, rest⟩ := bind_eq_ok returned
  obtain ⟨stdout, stderr, isOutcome, rfl⟩ := unchecked_eq_ok ran
  split at rest
  · cases rest
    obtain ⟨joined, isJoined⟩ :=
      joinError_eq_some state.error (exitMessage "stop-observers" returncode)
    cases isJoined.symm.trans clean
  · rename_i succeeded
    cases rest
    refine ⟨rfl, ?_, rfl, rfl, rfl⟩
    intro attempt member
    cases List.mem_singleton.mp member
    rw [Environment.attempt, isOutcome]
    exact beq_iff_eq.mpr (not_not.mp succeeded)

/-- A clean return up to the load means that all of it succeeded. -/
theorem upToLoad_eq_ok
    (returned : env.upToLoad state = (.ok (), after))
    (clean : after.error = none) :
    ∃ new,
      Advanced new state after ∧
        ∀ phase ∈ loadPhases, phase ∈ new.map Attempt.phase := by
  obtain ⟨_, _, matched, rest⟩ := bind_eq_ok returned
  obtain ⟨_, _, deployed, rest⟩ := bind_eq_ok rest
  obtain ⟨_, _, prepared, rest⟩ := bind_eq_ok rest
  obtain ⟨_, _, transferred, rest⟩ := bind_eq_ok rest
  obtain ⟨_, _, checkedFirst, rest⟩ := bind_eq_ok rest
  obtain ⟨_, _, observing, loaded⟩ := bind_eq_ok rest
  obtain ⟨polls, running⟩ := runLoad_eq_ok loaded clean
  have advanced :=
    (matchRevisions_eq_ok matched).trans <|
      (deployCandidate_eq_ok deployed).trans <|
        (remote_checkpoint_eq_ok prepared).trans <|
          (transferManifest_eq_ok transferred).trans <|
            (remote_checkpoint_eq_ok checkedFirst).trans <|
              (startObservers_eq_ok observing).trans running
  refine ⟨_, advanced, ?_⟩
  intro phase member
  simp only [loadPhases, List.mem_cons, List.not_mem_nil, or_false] at member
  rcases member with
    rfl | rfl | rfl | rfl | rfl | rfl | rfl | rfl | rfl | rfl | rfl <;>
  simp [Environment.attempt]

/-- A clean return after the load, with exit codes of zero. -/
theorem afterLoad_eq_ok
    (returned : env.afterLoad state = (.ok (), after))
    (clean : after.error = none)
    (admitted : after.admissionExit = some 0)
    (audited : after.auditExit = some 0) :
    state.error = none ∧
      ∃ new,
        after.attempts = state.attempts ++ new ∧
          (∀ attempt ∈ new, attempt.outcome.succeeded = true) ∧
          ∀ phase ∈ auditPhases, phase ∈ new.map Attempt.phase := by
  obtain ⟨_, collected, collecting, rest⟩ := bind_eq_ok returned
  obtain ⟨_, gated, gating, rest⟩ := bind_eq_ok rest
  obtain ⟨_, checkedLast, auditing, stopping⟩ := bind_eq_ok rest
  have evidence := collectEvidence_eq_ok collecting
  obtain ⟨gateAttempts, gateError, _, gateCode⟩ := gateAdmission_eq_ok gating
  obtain ⟨auditAttempts, auditError, auditKept, auditCode⟩ :=
    audit_eq_ok auditing
  have stopped := stopObservers_eq_ok stopping clean
  have gateSucceeded := gateCode
    (auditKept.symm.trans (stopped.admissionExit.symm.trans admitted))
  have auditSucceeded := auditCode (stopped.auditExit.symm.trans audited)
  constructor
  · rw [← evidence.error, ← gateError, ← auditError, ← stopped.error]
    exact clean
  · refine ⟨[env.attempt .generatorEvidence, env.attempt .backendLoadDir,
      env.attempt .loadResultsToBackend, env.attempt .admissionGate,
      env.attempt .durabilityAudit, env.attempt .stopObservers], ?_, ?_, ?_⟩
    · rw [stopped.attempts, auditAttempts, gateAttempts, evidence.attempts]
      simp only [List.append_assoc]
      rfl
    · intro attempt member
      simp only [List.mem_cons, List.not_mem_nil, or_false] at member
      rcases member with rfl | rfl | rfl | rfl | rfl | rfl
      · exact evidence.succeeded _ (by simp)
      · exact evidence.succeeded _ (by simp)
      · exact evidence.succeeded _ (by simp)
      · exact gateSucceeded
      · exact auditSucceeded
      · exact stopped.succeeded _ (by simp)
    · intro phase member
      exact member

/-- A clean return of the body, with exit codes of zero. -/
theorem body_eq_ok
    (returned : env.body {} = (.ok (), after))
    (clean : after.error = none)
    (admitted : after.admissionExit = some 0)
    (audited : after.auditExit = some 0) :
    (∀ attempt ∈ after.attempts, attempt.outcome.succeeded = true) ∧
      ∀ phase ∈ loadPhases ++ auditPhases, phase ∈ after.phases := by
  obtain ⟨_, middle, loading, rest⟩ := bind_eq_ok returned
  obtain ⟨cleanLoad, later, isLater, laterSucceeded, laterPhases⟩ :=
    afterLoad_eq_ok rest clean admitted audited
  obtain ⟨early, advanced, earlyPhases⟩ := upToLoad_eq_ok loading cleanLoad
  have attempts : after.attempts = early ++ later := by
    rw [isLater, advanced.attempts]
    rfl
  constructor
  · rw [attempts]
    intro attempt member
    rcases List.mem_append.mp member with isEarly | isLate
    · exact advanced.succeeded attempt isEarly
    · exact laterSucceeded attempt isLate
  · intro phase member
    rw [StageState.phases, attempts, List.map_append]
    rcases List.mem_append.mp member with isEarly | isLate
    · exact List.mem_append_left _ (earlyPhases phase isEarly)
    · exact List.mem_append_right _ (laterPhases phase isLate)

end Returned

/-! ## The audit -/

/-- Every audit comes after a stop of the load that succeeded. -/
def AuditedAfterStop (attempts : List Attempt) : Prop :=
  ∀ early attempt late,
    attempts = early ++ attempt :: late →
    attempt.phase = .durabilityAudit →
    ∃ stop ∈ early, stop.phase = .loadStop ∧ stop.outcome.succeeded = true

theorem AuditedAfterStop.of_unaudited
    {attempts : List Attempt}
    (unaudited : .durabilityAudit ∉ attempts.map Attempt.phase) :
    AuditedAfterStop attempts := by
  intro early attempt late isSplit isAudit
  rw [isSplit, List.map_append, List.map_cons, isAudit] at unaudited
  exact absurd (List.mem_append_right _ List.mem_cons_self) unaudited

theorem AuditedAfterStop.snoc
    {attempts : List Attempt}
    (audited : AuditedAfterStop attempts)
    (attempt : Attempt)
    (stopped :
      attempt.phase = .durabilityAudit →
      ∃ stop ∈ attempts,
        stop.phase = .loadStop ∧ stop.outcome.succeeded = true) :
    AuditedAfterStop (attempts ++ [attempt]) := by
  intro early other late isSplit isAudit
  rcases List.eq_nil_or_concat late with rfl | ⟨rest, last, rfl⟩
  · obtain ⟨rfl, isLast⟩ := List.append_inj' isSplit rfl
    cases isLast
    exact stopped isAudit
  · rw [List.concat_eq_append, ← List.cons_append, ← List.append_assoc]
      at isSplit
    obtain ⟨isEarlier, _⟩ := List.append_inj' isSplit rfl
    exact audited early other rest isEarlier isAudit

/-- The load was stopped, and every audit came after that. -/
structure Audited (state : StageState) : Prop where
  stopped :
    ∃ stop ∈ state.attempts,
      stop.phase = .loadStop ∧ stop.outcome.succeeded = true
  audited : AuditedAfterStop state.attempts

theorem Audited.steady : Steady Audited where
  logs _ _ audited := ⟨audited.stopped, audited.audited⟩
  completed _ _ audited := ⟨audited.stopped, audited.audited⟩
  sourceRevision _ _ audited := ⟨audited.stopped, audited.audited⟩
  deployed _ audited := ⟨audited.stopped, audited.audited⟩
  observers _ _ audited := ⟨audited.stopped, audited.audited⟩
  loadStartAttempted _ audited := ⟨audited.stopped, audited.audited⟩
  loadExit _ _ audited := ⟨audited.stopped, audited.audited⟩
  admissionExit _ _ audited := ⟨audited.stopped, audited.audited⟩
  auditExit _ _ audited := ⟨audited.stopped, audited.audited⟩
  error _ _ audited := ⟨audited.stopped, audited.audited⟩

theorem Audited.admits (phase : Phase) : Admits Audited phase := by
  intro state outcome audited
  constructor
  · obtain ⟨stop, member, isStop⟩ := audited.stopped
    exact ⟨stop, List.mem_append_left _ member, isStop⟩
  · exact audited.audited.snoc _ fun _ => audited.stopped

/-- The audit was not tried. -/
def Unaudited (state : StageState) : Prop :=
  .durabilityAudit ∉ state.phases

theorem Unaudited.steady : Steady Unaudited where
  logs _ _ unaudited := unaudited
  completed _ _ unaudited := unaudited
  sourceRevision _ _ unaudited := unaudited
  deployed _ unaudited := unaudited
  observers _ _ unaudited := unaudited
  loadStartAttempted _ unaudited := unaudited
  loadExit _ _ unaudited := unaudited
  admissionExit _ _ unaudited := unaudited
  auditExit _ _ unaudited := unaudited
  error _ _ unaudited := unaudited

theorem Unaudited.announced
    {phase : Phase}
    (other : phase ≠ .durabilityAudit) :
    Announced Unaudited phase := by
  intro state outcome unaudited _ _ member
  rw [phases_attempt] at member
  rcases List.mem_append.mp member with earlier | now
  · exact unaudited earlier
  · exact other (List.mem_singleton.mp now).symm

/-- The body audits only after it has stopped the load. -/
theorem body_audited (env : Environment) :
    AuditedAfterStop (env.body {}).2.attempts := by
  have unaudited : Unaudited (env.upToLoad {}).2 := by
    have kept : Keeps Unaudited env.upToLoad := by
      apply keeps_upToLoad Unaudited.steady
      intro phase member
      apply Unaudited.announced
      revert phase
      decide
    apply kept
    exact List.not_mem_nil
  have isBody :
      env.body {} = followedBy env.upToLoad (fun _ => env.afterLoad) {} :=
    rfl
  rw [isBody, followedBy]
  cases ran : env.upToLoad {} with
  | mk result middle =>
      rw [ran] at unaudited
      have untried := AuditedAfterStop.of_unaudited unaudited
      cases result with
      | error raised => exact untried
      | ok value =>
          have stopped :
              env.attempt .loadStop ∈ middle.attempts ∧
                (env.outcome .loadStop).succeeded = true := by
            obtain ⟨_, _, _, rest⟩ := bind_eq_ok ran
            obtain ⟨_, _, _, rest⟩ := bind_eq_ok rest
            obtain ⟨_, _, _, rest⟩ := bind_eq_ok rest
            obtain ⟨_, _, _, rest⟩ := bind_eq_ok rest
            obtain ⟨_, _, _, rest⟩ := bind_eq_ok rest
            obtain ⟨_, _, _, loaded⟩ := bind_eq_ok rest
            exact runLoad_stopped loaded
          have audited : Audited middle :=
            ⟨⟨_, stopped.1, rfl, stopped.2⟩, untried⟩
          exact (keeps_afterLoad Audited.steady env
            (fun phase _ => Audited.admits phase) middle audited).audited

/-! ## The finalizer -/

/-- An operation with a return code that is not zero raises. -/
theorem checked_of_ne_zero
    {returncode : Int}
    (failed : returncode ≠ 0)
    (phase : Phase)
    (stdout stderr : String)
    (state : StageState) :
    checked phase (.completed returncode stdout stderr) state =
      (.error (runtimeError (exitMessage phase.name returncode)),
        { state with
          attempts :=
            state.attempts ++ [⟨phase, .completed returncode stdout stderr⟩]
          logs := state.logs ++ [(phase, redact (stdout ++ stderr))] }) := by
  change (if returncode ≠ 0 then
      raise (runtimeError (exitMessage phase.name returncode)) >>=
        fun _ => pure stdout
    else
      pure stdout : Stage String) _ = _
  rw [if_pos failed]
  rfl

/-- From one state to the next by attempts, whatever their outcome. -/
def Tried (new : List Attempt) (before after : StageState) : Prop :=
  ∃ logs,
    after =
      { before with
        attempts := before.attempts ++ new
        logs := logs }

theorem Tried.trans
    {early late : List Attempt}
    {first second third : StageState}
    (before : Tried early first second)
    (after : Tried late second third) :
    Tried (early ++ late) first third := by
  obtain ⟨_, rfl⟩ := before
  obtain ⟨logs, rfl⟩ := after
  refine ⟨logs, ?_⟩
  rw [← List.append_assoc]

/-- A program that tries some operations and notes an error if one fails. -/
def Finishes
    (program : Stage (List String))
    (new : List Attempt) : Prop :=
  ∀ state,
    ∃ errors after,
      program state = (.ok errors, after) ∧
        Tried new state after ∧
        (errors = [] ↔
          ∀ attempt ∈ new, attempt.outcome.succeeded = true)

theorem finish_finishes
    (env : Environment)
    (label : String)
    (phase : Phase) :
    Finishes (env.finish label phase) [env.attempt phase] := by
  intro state
  unfold Environment.finish Environment.unchecked Environment.attempt
  cases isOutcome : env.outcome phase with
  | raised failure repr =>
      refine ⟨[label ++ ": " ++ redact repr], _, ?_, ⟨state.logs, rfl⟩, ?_⟩
      · cases failure <;> rfl
      · simp [Outcome.succeeded]
  | completed returncode stdout stderr =>
      refine ⟨_, _, rfl, ⟨_, rfl⟩, ?_⟩
      by_cases failed : returncode = 0
      · simp [failed, Outcome.succeeded]
      · simp [failed, Outcome.succeeded]

theorem finishCopy_finishes
    (env : Environment)
    (label : String)
    (phase : Phase) :
    Finishes (env.finishCopy label phase) [env.attempt phase] := by
  intro state
  unfold Environment.finishCopy Environment.remote Environment.attempt
  cases isOutcome : env.outcome phase with
  | raised failure repr =>
      refine ⟨[label ++ ": " ++ redact repr], _, ?_, ⟨state.logs, rfl⟩, ?_⟩
      · cases failure <;> rfl
      · simp [Outcome.succeeded]
  | completed returncode stdout stderr =>
      by_cases failed : returncode = 0
      · subst failed
        refine ⟨[], _, rfl, ⟨_, rfl⟩, ?_⟩
        simp [Outcome.succeeded]
      · have raises := checked_of_ne_zero failed phase stdout stderr state
        refine ⟨_, _, handle_of_error (bind_of_error raises) rfl, ⟨_, rfl⟩, ?_⟩
        simp [failed, Outcome.succeeded]

/-- The attempt that a flag asks for. -/
def Environment.attemptIf
    (env : Environment)
    (flag : Bool)
    (phase : Phase) : List Attempt :=
  if flag then [env.attempt phase] else []

theorem finishIf_finishes
    (env : Environment)
    (flag : Bool)
    (label : String)
    (phase : Phase) :
    Finishes (env.finishIf flag label phase) (env.attemptIf flag phase) := by
  cases flag with
  | true => exact finish_finishes env label phase
  | false =>
      intro state
      refine ⟨[], state, rfl, ⟨state.logs, ?_⟩, ?_⟩
      · simp [Environment.attemptIf]
      · simp [Environment.attemptIf]

/-- What the finalizer tries before it rolls back. -/
def Environment.stops (env : Environment) (state : StageState) : List Attempt :=
  env.attemptIf state.loadStartAttempted .loadStopFinally ++
    env.attemptIf state.observers .stopObserversFinally

/-- What the finalizer tries in every case. -/
def Environment.cleanups (env : Environment) : List Attempt :=
  [env.attempt .backendEvidence, env.attempt .generatorCleanup,
    env.attempt .backendCleanup]

/-- What the finalizer tries. -/
def Environment.finalAttempts
    (env : Environment)
    (state : StageState) : List Attempt :=
  env.stops state ++ env.attemptIf state.deployed .rollback ++ env.cleanups

/-- The finalizer returns, and notes an error if there is one. -/
theorem finalizer_eq
    (env : Environment)
    (state : StageState) :
    ∃ after,
      env.finalizer state = (.ok (), after) ∧
        after.attempts = state.attempts ++ env.finalAttempts state ∧
        after.observers = state.observers ∧
        after.loadExit = state.loadExit ∧
        after.auditExit = state.auditExit ∧
        after.admissionExit = state.admissionExit ∧
        (after.error = none ↔
          state.error = none ∧
            ∀ attempt ∈ env.finalAttempts state,
              attempt.outcome.succeeded = true) := by
  obtain ⟨stopping, first, ranFirst, triedFirst, noneFirst⟩ :=
    finishIf_finishes env state.loadStartAttempted "generator stop"
      .loadStopFinally state
  obtain ⟨observing, second, ranSecond, triedSecond, noneSecond⟩ :=
    finishIf_finishes env state.observers "stop observers"
      .stopObserversFinally first
  obtain ⟨rolling, third, ranThird, triedThird, noneThird⟩ :=
    finishIf_finishes env state.deployed "rollback" .rollback second
  obtain ⟨collecting, fourth, ranFourth, triedFourth, noneFourth⟩ :=
    finishCopy_finishes env "collect backend evidence" .backendEvidence third
  obtain ⟨generator, fifth, ranFifth, triedFifth, noneFifth⟩ :=
    finish_finishes env "generator cleanup" .generatorCleanup fourth
  obtain ⟨backend, sixth, ranSixth, triedSixth, noneSixth⟩ :=
    finish_finishes env "backend cleanup" .backendCleanup fifth
  obtain ⟨logs, isSixth⟩ :=
    triedFirst.trans <| triedSecond.trans <| triedThird.trans <|
      triedFourth.trans <| triedFifth.trans triedSixth
  let errors :=
    stopping ++ observing ++ rolling ++ collecting ++ generator ++ backend
  have ran :
      env.finalizer state =
        (if errors ≠ [] then
          update fun state =>
            { state with
              error :=
                Environment.joinError state.error
                  ("; ".intercalate errors) }
        else
          pure () : Stage Unit) sixth :=
    (bind_of_ok rfl).trans <| (bind_of_ok ranFirst).trans <|
      (bind_of_ok ranSecond).trans <| (bind_of_ok ranThird).trans <|
        (bind_of_ok ranFourth).trans <| (bind_of_ok ranFifth).trans <|
          bind_of_ok ranSixth
  have isFinal :
      env.attemptIf state.loadStartAttempted .loadStopFinally ++
          (env.attemptIf state.observers .stopObserversFinally ++
            (env.attemptIf state.deployed .rollback ++
              ([env.attempt .backendEvidence] ++
                ([env.attempt .generatorCleanup] ++
                  [env.attempt .backendCleanup])))) =
        env.finalAttempts state := by
    simp [Environment.finalAttempts, Environment.stops, Environment.cleanups]
  have noErrors :
      errors = [] ↔
        ∀ attempt ∈ env.finalAttempts state,
          attempt.outcome.succeeded = true := by
    rw [← isFinal]
    simp only [errors, List.append_eq_nil_iff, List.forall_mem_append,
      noneFirst, noneSecond, noneThird, noneFourth, noneFifth, noneSixth,
      and_assoc]
  rw [isFinal] at isSixth
  by_cases clean : errors = []
  · refine ⟨sixth, ?_, ?_⟩
    · rw [ran, if_neg (not_not.mpr clean)]
      rfl
    · rw [isSixth]
      exact ⟨rfl, rfl, rfl, rfl, rfl,
        ⟨fun unset => ⟨unset, noErrors.mp clean⟩, fun both => both.1⟩⟩
  · obtain ⟨joined, isJoined⟩ :=
      joinError_eq_some sixth.error ("; ".intercalate errors)
    refine ⟨{ sixth with error := some joined }, ?_, ?_⟩
    · rw [ran, if_pos clean, ← isJoined]
      rfl
    · rw [isSixth]
      refine ⟨rfl, rfl, rfl, rfl, rfl, ⟨nofun, ?_⟩⟩
      rintro ⟨_, succeeded⟩
      exact absurd (noErrors.mpr succeeded) clean

/-! ## The gates -/

/-- Missing evidence reads as null everywhere. -/
theorem get_evidence_none
    {env : Environment}
    {value field : Json}
    {key : String}
    (isValue : env.evidence none = .ok value)
    (isField : get value key = .ok field) :
    field = .null := by
  cases isValue
  cases isField
  rfl

/-- A field that is not null comes from evidence that exists. -/
theorem evidence_exists
    {env : Environment}
    {file : Option String}
    {value field : Json}
    {key : String}
    (isValue : env.evidence file = .ok value)
    (isField : get value key = .ok field)
    (present : field ≠ .null) :
    file.isSome = true := by
  cases file with
  | some text => rfl
  | none => exact absurd (get_evidence_none isValue isField) present

theorem ne_null_of_isTrue
    {value : Json}
    (isTrue : value.isTrue = true) :
    value ≠ .null := by
  rintro rfl
  cases isTrue

theorem ne_null_of_equalsZero
    {value : Json}
    (isZero : value.equalsZero = true) :
    value ≠ .null := by
  rintro rfl
  cases isZero

theorem admissionZero_eq_true
    {admission : Json}
    {admissionExit : Option Int}
    (isZero : admissionZero admission admissionExit = .ok true) :
    admissionExit = some 0 ∧
      ∃ rejections,
        get admission "admission_rejections" = .ok rejections ∧
          rejections.equalsZero = true := by
  unfold admissionZero at isZero
  split at isZero
  · rename_i exitZero
    cases isGet : get admission "admission_rejections" with
    | error raised =>
        rw [isGet] at isZero
        cases isZero
    | ok rejections =>
        rw [isGet] at isZero
        exact ⟨exitZero, rejections, rfl, Except.ok.inj isZero⟩
  · cases isZero

/-- Gates that all hold: exit codes of zero, and evidence that exists. -/
theorem evaluate_pass
    {env : Environment}
    {loadExit auditExit admissionExit : Option Int}
    {evaluation : Evaluation}
    (evaluated :
      env.evaluate loadExit auditExit admissionExit = .ok evaluation)
    (pass : allPass evaluation.gates = true) :
    (loadExit = some 0 ∧ auditExit = some 0 ∧ admissionExit = some 0) ∧
      env.summary.isSome = true ∧ env.durability.isSome = true ∧
      env.admission.isSome = true ∧ env.rollback.isSome = true := by
  unfold Environment.evaluate at evaluated
  simp only [Checked.bind_eq_ok] at evaluated
  obtain ⟨summary, isSummary, durability, isDurability, admission, isAdmission,
    rollback, isRollback, workload, isWorkload, drops, _, transportErrors, _,
    readP95, _, readBelow, _, holdP95, _, holdBelow, _, admitted, isAdmitted,
    durable, isDurable, overlapping, _, queues, _, queuesDrained, _, restored,
    isRestored, requestSummary, _, rejections, isRejections, auditedHolds, _,
    rest⟩ := evaluated
  cases rest
  simp only [allPass, List.all_cons, List.all_nil, Bool.and_true,
    Bool.and_eq_true, beq_iff_eq] at pass
  obtain ⟨loadZero, workloadTrue, _, _, _, _, isAdmittedTrue, auditZero,
    durableTrue, _, _, restoredTrue⟩ := pass
  obtain ⟨admissionExitZero, _, isRejection⟩ := admissionZero_eq_true
    (isAdmitted.trans (congrArg Except.ok isAdmittedTrue))
  refine ⟨⟨loadZero, auditZero, admissionExitZero⟩, ?_, ?_, ?_, ?_⟩
  · exact evidence_exists isSummary isWorkload (ne_null_of_isTrue workloadTrue)
  · exact evidence_exists isDurability isDurable
      (ne_null_of_isTrue durableTrue)
  · exact evidence_exists isAdmission isRejection.1
      (ne_null_of_equalsZero isRejection.2)
  · exact evidence_exists isRollback isRestored
      (ne_null_of_isTrue restoredTrue)

/-! ## The stage -/

/-- The state that the finalizer starts from. -/
theorem handled_eq (env : Environment) :
    ∃ result middle,
      handle env.body (fun raised => raised.kind.caughtByBody)
          Environment.stageFailed {} = (result, middle) ∧
        Flagged middle ∧
        AuditedAfterStop middle.attempts ∧
        (result = .ok () →
          middle.error = none →
          env.body {} = (.ok (), middle)) := by
  have initial : Flagged {} := ⟨nofun, nofun, nofun⟩
  have flagged := Flagged.body env {} initial
  have audited := body_audited env
  cases ran : env.body {} with
  | mk result middle =>
      rw [ran] at flagged audited
      cases result with
      | ok value =>
          exact ⟨_, middle, handle_of_ok ran, flagged, audited, fun _ _ => rfl⟩
      | error raised =>
          by_cases isCaught : raised.kind.caughtByBody = true
          · refine ⟨_, _, handle_of_error ran isCaught, ?_, audited, nofun⟩
            exact Flagged.steady.error middle _ flagged
          · exact ⟨_, middle, handle_of_uncaught ran isCaught, flagged,
              audited, nofun⟩

theorem main_eq (env : Environment) :
    ∃ middle after,
      env.main.2 = after ∧
        env.finalizer middle = (.ok (), after) ∧
        Flagged middle ∧
        AuditedAfterStop middle.attempts ∧
        ∀ result,
          env.main.1 = .ok result →
          middle.error = none →
          env.body {} = (.ok (), middle) := by
  obtain ⟨outcome, middle, handled, flagged, audited, returned⟩ :=
    handled_eq env
  obtain ⟨after, finalized, _⟩ := finalizer_eq env middle
  have staged : env.stage {} = (outcome, after) :=
    cleanedUp_of_ok handled finalized
  unfold Environment.main
  rw [staged]
  cases outcome with
  | error raised =>
      exact ⟨middle, after, rfl, finalized, flagged, audited, nofun⟩
  | ok value =>
      exact ⟨middle, after, rfl, finalized, flagged, audited,
        fun _ _ clean => returned rfl clean⟩

/-- A result comes from the evaluation of the state at the end. -/
theorem main_result
    {env : Environment}
    {result : StageResult}
    (isResult : env.main.1 = .ok result) :
    ∃ evaluation,
      env.evaluate env.main.2.loadExit env.main.2.auditExit
          env.main.2.admissionExit = .ok evaluation ∧
        result = env.main.2.result evaluation := by
  unfold Environment.main at isResult ⊢
  cases ran : env.stage {} with
  | mk outcome state =>
      rw [ran] at isResult
      cases outcome with
      | error raised => cases isResult
      | ok value =>
          cases evaluated :
              env.evaluate state.loadExit state.auditExit
                state.admissionExit with
          | error raised =>
              simp [evaluated, Except.map] at isResult
          | ok evaluation =>
              simp only [evaluated, Except.map, Except.ok.injEq] at isResult
              exact ⟨evaluation, rfl, isResult.symm⟩

theorem phase_of_mem_attemptIf
    {env : Environment}
    {flag : Bool}
    {phase : Phase}
    {attempt : Attempt}
    (member : attempt ∈ env.attemptIf flag phase) :
    attempt.phase = phase := by
  cases flag with
  | false => cases member
  | true =>
      cases List.mem_singleton.mp member
      rfl

theorem phase_of_mem_stops
    {env : Environment}
    {state : StageState}
    {attempt : Attempt}
    (member : attempt ∈ env.stops state) :
    attempt.phase = .loadStopFinally ∨
      attempt.phase = .stopObserversFinally := by
  rcases List.mem_append.mp member with stops | observes
  · exact Or.inl (phase_of_mem_attemptIf stops)
  · exact Or.inr (phase_of_mem_attemptIf observes)

theorem phase_of_mem_cleanups
    {env : Environment}
    {attempt : Attempt}
    (member : attempt ∈ env.cleanups) :
    attempt.phase ∈
      [Phase.backendEvidence, .generatorCleanup, .backendCleanup] :=
  List.mem_map_of_mem member

/-- The finalizer tries nothing but its own operations. -/
theorem mem_finalPhases
    {env : Environment}
    {state : StageState}
    {attempt : Attempt}
    (member : attempt ∈ env.finalAttempts state) :
    attempt.phase ∈ finalPhases := by
  rcases List.mem_append.mp member with before | cleans
  · rcases List.mem_append.mp before with stops | rolls
    · rcases phase_of_mem_stops stops with isStop | isObserver
      · simp [isStop, finalPhases]
      · simp [isObserver, finalPhases]
    · simp [phase_of_mem_attemptIf rolls, finalPhases]
  · have isCleanup := phase_of_mem_cleanups cleans
    simp only [List.mem_cons, List.not_mem_nil, or_false] at isCleanup
    simp [finalPhases, isCleanup]

/-- An operation of the body was tried by the body. -/
theorem mem_phases_of_not_final
    {env : Environment}
    {middle after : StageState}
    {phase : Phase}
    (isAfter :
      after.attempts = middle.attempts ++ env.finalAttempts middle)
    (member : phase ∈ after.phases)
    (notFinal : phase ∉ finalPhases) :
    phase ∈ middle.phases := by
  rw [StageState.phases, isAfter, List.map_append] at member
  rcases List.mem_append.mp member with early | late
  · exact early
  · obtain ⟨attempt, isFinal, rfl⟩ := List.mem_map.mp late
    exact absurd (mem_finalPhases isFinal) notFinal

/-- A deployment is rolled back once, after the load and the observers. -/
theorem rollback_once
    {env : Environment}
    {middle after : StageState}
    (flagged : Flagged middle)
    (isAfter :
      after.attempts = middle.attempts ++ env.finalAttempts middle)
    (observers : after.observers = middle.observers)
    (deployed : .deploy ∈ after.phases) :
    ∃ early late,
      after.attempts = early ++ env.attempt .rollback :: late ∧
        (∀ attempt ∈ early ++ late, attempt.phase ≠ .rollback) ∧
        (.loadStart ∈ after.phases →
          env.attempt .loadStopFinally ∈ early) ∧
        (after.observers = true →
          env.attempt .stopObserversFinally ∈ early) := by
  have isDeployed : middle.deployed = true :=
    flagged.deployed (mem_phases_of_not_final isAfter deployed (by decide))
  refine ⟨middle.attempts ++ env.stops middle, env.cleanups, ?_, ?_, ?_, ?_⟩
  · rw [isAfter, Environment.finalAttempts, Environment.attemptIf,
      if_pos isDeployed]
    simp
  · intro attempt member isRollback
    rcases List.mem_append.mp member with before | cleans
    · rcases List.mem_append.mp before with early | stops
      · apply flagged.early attempt.phase (List.mem_map_of_mem early)
        rw [isRollback]
        decide
      · rcases phase_of_mem_stops stops with isStop | isObserver
        · cases isStop.symm.trans isRollback
        · cases isObserver.symm.trans isRollback
    · have isCleanup := phase_of_mem_cleanups cleans
      rw [isRollback] at isCleanup
      revert isCleanup
      decide
  · intro started
    have isStarted : middle.loadStartAttempted = true :=
      flagged.started (mem_phases_of_not_final isAfter started (by decide))
    apply List.mem_append_right
    apply List.mem_append_left
    rw [Environment.attemptIf, if_pos isStarted]
    exact List.mem_singleton_self _
  · intro observing
    rw [observers] at observing
    apply List.mem_append_right
    apply List.mem_append_right
    rw [Environment.attemptIf, if_pos observing]
    exact List.mem_singleton_self _

/-- The finalizer adds no audit. -/
theorem AuditedAfterStop.append_final
    {attempts new : List Attempt}
    (audited : AuditedAfterStop attempts)
    (others : ∀ attempt ∈ new, attempt.phase ≠ .durabilityAudit) :
    AuditedAfterStop (attempts ++ new) := by
  induction new generalizing attempts with
  | nil =>
      rw [List.append_nil]
      exact audited
  | cons attempt rest inductionHypothesis =>
      rw [← List.singleton_append, ← List.append_assoc]
      apply inductionHypothesis
      · apply audited.snoc
        intro isAudit
        exact absurd isAudit (others attempt List.mem_cons_self)
      · intro other member
        exact others other (List.mem_cons_of_mem attempt member)

/-- The operations that are not of the body, but for one. -/
theorem phase_cases :
    ∀ phase,
      phase ∉ loadPhases ++ auditPhases →
      phase ≠ .stopObserversFinally →
      phase ∈
        [Phase.loadStopFinally, .rollback, .backendEvidence,
          .generatorCleanup, .backendCleanup] := by
  intro phase
  cases phase <;> decide

/-- A stage that passes returned from every operation without an error. -/
theorem pass_clean
    {env : Environment}
    {result : StageResult}
    (isResult : env.main.1 = .ok result)
    (pass : result.pass = true) :
    (∀ attempt ∈ env.main.2.attempts, attempt.outcome.succeeded = true) ∧
      (∀ phase, phase ≠ .stopObserversFinally → phase ∈ env.main.2.phases) ∧
      (env.main.2.loadExit = some 0 ∧ env.main.2.auditExit = some 0 ∧
        env.main.2.admissionExit = some 0) ∧
      env.summary.isSome = true ∧ env.durability.isSome = true ∧
      env.admission.isSome = true ∧ env.rollback.isSome = true := by
  obtain ⟨evaluation, evaluated, isEvaluation⟩ := main_result isResult
  obtain ⟨middle, after, isAfter, finalized, flagged, _, returned⟩ :=
    main_eq env
  obtain ⟨final, isFinal, attempts, _, loadKept, auditKept, admissionKept,
    errorIff⟩ := finalizer_eq env middle
  cases finalized.symm.trans isFinal
  -- The last gate is that there is no error; the others are the evaluation's.
  rw [isEvaluation, StageState.result] at pass
  simp only [allPass, List.all_append, List.all_cons, List.all_nil,
    Bool.and_true, Bool.and_eq_true, Option.isNone_iff_eq_none] at pass
  obtain ⟨gatesPass, noError⟩ := pass
  obtain ⟨exits, files⟩ := evaluate_pass evaluated gatesPass
  rw [isAfter] at noError exits
  obtain ⟨clean, finalSucceeded⟩ := errorIff.mp noError
  have body := returned result isResult clean
  obtain ⟨bodySucceeded, bodyPhases⟩ :=
    body_eq_ok body clean (admissionKept.symm.trans exits.2.2)
      (auditKept.symm.trans exits.2.1)
  rw [isAfter]
  refine ⟨?_, ?_, exits, files⟩
  · rw [attempts]
    intro attempt member
    rcases List.mem_append.mp member with early | late
    · exact bodySucceeded attempt early
    · exact finalSucceeded attempt late
  · intro phase notObservers
    rw [StageState.phases, attempts, List.map_append]
    by_cases isBody : phase ∈ loadPhases ++ auditPhases
    · exact List.mem_append_left _ (bodyPhases phase isBody)
    · apply List.mem_append_right
      have deployed : middle.deployed = true :=
        flagged.deployed (bodyPhases .deploy (by decide))
      have started : middle.loadStartAttempted = true :=
        flagged.started (bodyPhases .loadStart (by decide))
      have isFinalPhase := phase_cases phase isBody notObservers
      simp only [List.mem_cons, List.not_mem_nil, or_false] at isFinalPhase
      rcases isFinalPhase with rfl | rfl | rfl | rfl | rfl <;>
      simp [Environment.finalAttempts, Environment.stops,
        Environment.attemptIf, Environment.cleanups, Environment.attempt,
        deployed, started]

/--
Whatever the operations do: a deployment is rolled back once, after the load and
the observers that were still recorded; evidence is collected and both manifests
are cleaned up; the audit runs only after a stop of the load that succeeded; and
the result passes only if every operation was tried and succeeded, with exit
codes of zero, and every gate holds on evidence that exists.
-/
theorem stage_tears_down_and_fails_closed (env : Environment) :
    (.deploy ∈ env.main.2.phases →
      ∃ early late,
        env.main.2.attempts = early ++ env.attempt .rollback :: late ∧
          (∀ attempt ∈ early ++ late, attempt.phase ≠ .rollback) ∧
          (.loadStart ∈ env.main.2.phases →
            env.attempt .loadStopFinally ∈ early) ∧
          (env.main.2.observers = true →
            env.attempt .stopObserversFinally ∈ early)) ∧
    (env.attempt .backendEvidence ∈ env.main.2.attempts ∧
      env.attempt .generatorCleanup ∈ env.main.2.attempts ∧
      env.attempt .backendCleanup ∈ env.main.2.attempts) ∧
    (∀ early attempt late,
      env.main.2.attempts = early ++ attempt :: late →
      attempt.phase = .durabilityAudit →
      ∃ stop ∈ early,
        stop.phase = .loadStop ∧ stop.outcome.succeeded = true) ∧
    ∀ result,
      env.main.1 = .ok result →
      result.pass = true →
      (∀ attempt ∈ env.main.2.attempts,
          attempt.outcome.succeeded = true) ∧
        (∀ phase,
          phase ≠ .stopObserversFinally →
          phase ∈ env.main.2.phases) ∧
        (env.main.2.loadExit = some 0 ∧ env.main.2.auditExit = some 0 ∧
          env.main.2.admissionExit = some 0) ∧
        (∀ gate ∈ result.gates, gate.2 = true) ∧
        env.summary.isSome = true ∧ env.durability.isSome = true ∧
        env.admission.isSome = true ∧ env.rollback.isSome = true := by
  obtain ⟨middle, after, isAfter, finalized, flagged, audited, _⟩ :=
    main_eq env
  obtain ⟨final, isFinal, attempts, observers, _⟩ := finalizer_eq env middle
  cases finalized.symm.trans isFinal
  refine ⟨?_, ?_, ?_, ?_⟩
  · rw [isAfter]
    exact rollback_once flagged attempts observers
  · rw [isAfter, attempts]
    simp [Environment.finalAttempts, Environment.cleanups]
  · rw [isAfter, attempts]
    apply audited.append_final
    intro attempt member isAudit
    have isFinalPhase := mem_finalPhases member
    rw [isAudit] at isFinalPhase
    revert isFinalPhase
    decide
  · intro result isResult pass
    obtain ⟨succeeded, tried, exits, files⟩ := pass_clean isResult pass
    refine ⟨succeeded, tried, exits, ?_, files⟩
    obtain ⟨evaluation, _, rfl⟩ := main_result isResult
    exact List.all_eq_true.mp pass

/-- A stage without failures, whose load is running when it is first asked. -/
def smallStage : Environment where
  outcome phase :=
    match phase with
    | .backendRevision | .generatorRevision =>
        .completed 0 "0123456789abcdef0123456789abcdef01234567" ""
    | _ => .completed 0 "" ""
  firstPoll := .completed 0 "running" ""
  laterPolls := [.completed 0 "finished" ""]
  loads text :=
    match text with
    | "running" => .ok (.object [("state", .text "running")])
    | "finished" =>
        .ok (.object [("state", .text "finished"), ("exit_code", .int 0)])
    | "summary" =>
        .ok (.object
          [("workload_gate_pass", .bool true), ("generator_drops", .int 0),
            ("worst_worker_read_p95_ms", .int 8),
            ("worst_worker_hold_p95_ms", .int 50)])
    | "durability" =>
        .ok (.object
          [("durability_and_expiry_pass", .bool true),
            ("overlapping_load_hold_intervals", .int 0),
            ("queues_snapshot", .object [("outbox", .int 0)])])
    | "admission" => .ok (.object [("admission_rejections", .int 0)])
    | "rollback" => .ok (.object [("pass", .bool true)])
    | _ => .error "JSONDecodeError('Expecting value')"
  summary := some "summary"
  durability := some "durability"
  admission := some "admission"
  rollback := some "rollback"
  workerFiles := 4
  workers := 4

theorem smallStage_passes :
    ∃ result, smallStage.main.1 = .ok result ∧ result.pass = true :=
  ⟨_, rfl, by decide⟩

/-- The stage without failures passes, and it was rolled back. -/
theorem stage_tears_down_and_fails_closed_smallStage :
    (∃ early late,
      smallStage.main.2.attempts =
        early ++ smallStage.attempt .rollback :: late) ∧
      ∀ attempt ∈ smallStage.main.2.attempts,
        attempt.outcome.succeeded = true := by
  obtain ⟨rolledBack, _, _, passes⟩ :=
    stage_tears_down_and_fails_closed smallStage
  obtain ⟨result, isResult, pass⟩ := smallStage_passes
  constructor
  · obtain ⟨early, late, isSplit, _⟩ := rolledBack (by decide)
    exact ⟨early, late, isSplit⟩
  · exact (passes result isResult pass).1

end FlashTicketing.CapacityStage
