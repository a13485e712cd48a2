import Mathlib

namespace Raising

/-!
# Programs that raise

A program changes a state and then returns or raises; what it did to the state
before it raised stays done.  `Keeps` is for what holds whatever happens; the
lemmas on return take a program that returned apart.
-/

variable {State Error Value Next : Type}

def Program (State Error Value : Type) : Type :=
  State → Except Error Value × State

namespace Program

/-- The program that returns at once. -/
def done (value : Value) : Program State Error Value :=
  fun state => (.ok value, state)

/-- Go on with the second program if the first returns. -/
def followedBy
    (first : Program State Error Value)
    (second : Value → Program State Error Next) :
    Program State Error Next :=
  fun state =>
    match first state with
    | (.ok value, middle) => second value middle
    | (.error raised, middle) => (.error raised, middle)

instance : Monad (Program State Error) where
  pure := done
  bind := followedBy

def raise (raised : Error) : Program State Error Value :=
  fun state => (.error raised, state)

def update (change : State → State) : Program State Error Unit :=
  fun state => (.ok (), change state)

def read : Program State Error State :=
  fun state => (.ok state, state)

/-- `try: ... except`: errors that are not caught pass through. -/
def handle
    (body : Program State Error Value)
    (caught : Error → Bool)
    (handler : Error → Program State Error Value) :
    Program State Error Value :=
  fun state =>
    match body state with
    | (.ok value, middle) => (.ok value, middle)
    | (.error raised, middle) =>
        if caught raised then
          handler raised middle
        else
          (.error raised, middle)

/-- `try: ... finally`: an error of the cleanup replaces that of the body. -/
def cleanedUp
    (body : Program State Error Value)
    (cleanup : Program State Error Unit) :
    Program State Error Value :=
  fun state =>
    match body state with
    | (result, middle) =>
        match cleanup middle with
        | (.ok (), after) => (result, after)
        | (.error raised, after) => (.error raised, after)

/-! ## Whatever happens -/

/-- The program keeps a property of the state, also when it raises. -/
def Keeps
    (property : State → Prop)
    (program : Program State Error Value) : Prop :=
  ∀ state, property state → property (program state).2

variable {property : State → Prop}

theorem Keeps.done (value : Value) :
    Keeps property (pure value : Program State Error Value) :=
  fun _ holds => holds

theorem Keeps.raise (raised : Error) :
    Keeps property (raise raised : Program State Error Value) :=
  fun _ holds => holds

/-- Nothing follows an error. -/
theorem Keeps.raise_bind
    (raised : Error)
    (rest : Value → Program State Error Next) :
    Keeps property (Program.raise raised >>= rest) :=
  fun _ holds => holds

theorem Keeps.update
    {change : State → State}
    (kept : ∀ state, property state → property (change state)) :
    Keeps property (update change : Program State Error Unit) :=
  kept

theorem Keeps.bind
    {first : Program State Error Value}
    {second : Value → Program State Error Next}
    (early : Keeps property first)
    (late : ∀ value, Keeps property (second value)) :
    Keeps property (first >>= second) := by
  intro state holds
  have middle := early state holds
  change property (followedBy first second state).2
  unfold followedBy
  cases ran : first state with
  | mk result reached =>
      rw [ran] at middle
      cases result with
      | ok value => exact late value reached middle
      | error raised => exact middle

theorem Keeps.handle
    {body : Program State Error Value}
    {handler : Error → Program State Error Value}
    (early : Keeps property body)
    (late : ∀ raised, Keeps property (handler raised))
    (caught : Error → Bool) :
    Keeps property (handle body caught handler) := by
  intro state holds
  have middle := early state holds
  unfold Program.handle
  cases ran : body state with
  | mk result reached =>
      rw [ran] at middle
      cases result with
      | ok value => exact middle
      | error raised =>
          by_cases isCaught : caught raised = true
          · simpa [isCaught] using late raised reached middle
          · simpa [isCaught] using middle

theorem Keeps.cleanedUp
    {body : Program State Error Value}
    {cleanup : Program State Error Unit}
    (early : Keeps property body)
    (late : Keeps property cleanup) :
    Keeps property (cleanedUp body cleanup) := by
  intro state holds
  have middle := late _ (early state holds)
  unfold Program.cleanedUp
  cases ran : body state with
  | mk result reached =>
      rw [ran] at middle
      cases cleaned : cleanup reached with
      | mk outcome after =>
          rw [cleaned] at middle
          cases outcome with
          | ok _ => simpa [cleaned] using middle
          | error _ => simpa [cleaned] using middle

/-! ## On an error -/

theorem bind_of_error
    {first : Program State Error Value}
    {second : Value → Program State Error Next}
    {state after : State}
    {raised : Error}
    (ran : first state = (.error raised, after)) :
    (first >>= second) state = (.error raised, after) := by
  change followedBy first second state = _
  rw [followedBy, ran]

theorem handle_of_error
    {body : Program State Error Value}
    {caught : Error → Bool}
    {handler : Error → Program State Error Value}
    {state after : State}
    {raised : Error}
    (ran : body state = (.error raised, after))
    (isCaught : caught raised = true) :
    handle body caught handler state = handler raised after := by
  rw [handle, ran]
  exact if_pos isCaught

theorem handle_of_uncaught
    {body : Program State Error Value}
    {caught : Error → Bool}
    {handler : Error → Program State Error Value}
    {state after : State}
    {raised : Error}
    (ran : body state = (.error raised, after))
    (uncaught : ¬ caught raised = true) :
    handle body caught handler state = (.error raised, after) := by
  rw [handle, ran]
  exact if_neg uncaught

/-! ## On return -/

theorem cleanedUp_of_ok
    {body : Program State Error Value}
    {cleanup : Program State Error Unit}
    {state middle after : State}
    {result : Except Error Value}
    (ran : body state = (result, middle))
    (cleaned : cleanup middle = (.ok (), after)) :
    cleanedUp body cleanup state = (result, after) := by
  unfold cleanedUp
  simp only [ran, cleaned]

theorem handle_of_ok
    {body : Program State Error Value}
    {caught : Error → Bool}
    {handler : Error → Program State Error Value}
    {state after : State}
    {value : Value}
    (ran : body state = (.ok value, after)) :
    handle body caught handler state = (.ok value, after) := by
  rw [handle, ran]

theorem bind_of_ok
    {first : Program State Error Value}
    {second : Value → Program State Error Next}
    {state after : State}
    {value : Value}
    (ran : first state = (.ok value, after)) :
    (first >>= second) state = second value after := by
  change followedBy first second state = _
  rw [followedBy, ran]

/-- A sequence returned, so both of its programs did. -/
theorem bind_eq_ok
    {first : Program State Error Value}
    {second : Value → Program State Error Next}
    {state after : State}
    {result : Next}
    (returned : (first >>= second) state = (.ok result, after)) :
    ∃ value middle,
      first state = (.ok value, middle) ∧
        second value middle = (.ok result, after) := by
  change followedBy first second state = _ at returned
  unfold followedBy at returned
  cases ran : first state with
  | mk outcome reached =>
      rw [ran] at returned
      cases outcome with
      | ok value => exact ⟨value, reached, rfl, returned⟩
      | error raised => cases returned

/-- A cleanup that returned leaves the result of the body. -/
theorem cleanedUp_eq_ok
    {body : Program State Error Value}
    {cleanup : Program State Error Unit}
    {state after : State}
    {result : Value}
    (returned : cleanedUp body cleanup state = (.ok result, after)) :
    ∃ middle,
      body state = (.ok result, middle) ∧
        cleanup middle = (.ok (), after) := by
  unfold cleanedUp at returned
  cases ran : body state with
  | mk outcome reached =>
      rw [ran] at returned
      cases cleaned : cleanup reached with
      | mk ended final =>
          simp only [cleaned] at returned
          cases ended with
          | ok _ =>
              cases returned
              exact ⟨reached, rfl, cleaned⟩
          | error _ => cases returned

/-- A handled body returned, or its error was handled. -/
theorem handle_eq_ok
    {body : Program State Error Value}
    {caught : Error → Bool}
    {handler : Error → Program State Error Value}
    {state after : State}
    {result : Value}
    (returned : handle body caught handler state = (.ok result, after)) :
    body state = (.ok result, after) ∨
      ∃ raised middle,
        body state = (.error raised, middle) ∧
          handler raised middle = (.ok result, after) := by
  unfold handle at returned
  cases ran : body state with
  | mk outcome reached =>
      rw [ran] at returned
      cases outcome with
      | ok value => exact Or.inl returned
      | error raised =>
          change (if caught raised then handler raised reached
            else (.error raised, reached)) = _ at returned
          by_cases isCaught : caught raised = true
          · rw [if_pos isCaught] at returned
            exact Or.inr ⟨raised, reached, rfl, returned⟩
          · rw [if_neg isCaught] at returned
            cases returned

/-! ## Pre- and postconditions -/

/-- What holds when the program returns, and what when it raises. -/
structure Meets
    (before : State → Prop)
    (program : Program State Error Value)
    (returned : Value → State → Prop)
    (raised : Error → State → Prop) : Prop where
  returns :
    ∀ {state value after},
      before state →
      program state = (.ok value, after) →
      returned value after
  raises :
    ∀ {state error after},
      before state →
      program state = (.error error, after) →
      raised error after

namespace Meets

variable
  {before : State → Prop}
  {returned : Value → State → Prop}
  {raised : Error → State → Prop}

theorem weaken
    {program : Program State Error Value}
    {earlier : State → Prop}
    {later : Value → State → Prop}
    {laterRaised : Error → State → Prop}
    (meets : Meets before program returned raised)
    (start : ∀ state, earlier state → before state)
    (onReturn : ∀ value state, returned value state → later value state)
    (onRaise : ∀ error state, raised error state → laterRaised error state) :
    Meets earlier program later laterRaised where
  returns := fun holds ran => onReturn _ _ (meets.returns (start _ holds) ran)
  raises := fun holds ran => onRaise _ _ (meets.raises (start _ holds) ran)

/-- What holds for each choice of a ghost holds for some choice. -/
theorem any
    {Ghost : Type}
    {program : Program State Error Value}
    {choice : Ghost → State → Prop}
    (meets : ∀ ghost, Meets (choice ghost) program returned raised) :
    Meets (fun state => ∃ ghost, choice ghost state) program returned
      raised where
  returns := by
    rintro state value after ⟨ghost, holds⟩ ran
    exact (meets ghost).returns holds ran
  raises := by
    rintro state error after ⟨ghost, holds⟩ ran
    exact (meets ghost).raises holds ran

/-- A fact that does not depend on the state can be assumed. -/
theorem given
    {program : Program State Error Value}
    {fact : Prop}
    (meets : fact → Meets before program returned raised) :
    Meets (fun state => fact ∧ before state) program returned raised where
  returns := fun holds ran => (meets holds.1).returns holds.2 ran
  raises := fun holds ran => (meets holds.1).raises holds.2 ran

/-- Nothing is asked of a program that is not reached. -/
theorem unreached
    {program : Program State Error Value}
    (never : ∀ state, ¬ before state) :
    Meets before program returned raised where
  returns := fun start _ => absurd start (never _)
  raises := fun start _ => absurd start (never _)

theorem done
    {value : Value}
    (holds : ∀ state, before state → returned value state) :
    Meets before (pure value : Program State Error Value) returned
      raised where
  returns := by
    intro state result after start ran
    cases ran
    exact holds state start
  raises := by
    intro state error after _ ran
    cases ran

theorem raise
    {error : Error}
    (holds : ∀ state, before state → raised error state) :
    Meets before (Program.raise error : Program State Error Value) returned
      raised where
  returns := by
    intro state value after _ ran
    cases ran
  raises := by
    intro state other after start ran
    cases ran
    exact holds state start

theorem update
    {change : State → State}
    {returned : Unit → State → Prop}
    (holds : ∀ state, before state → returned () (change state)) :
    Meets before (Program.update change : Program State Error Unit) returned
      raised where
  returns := by
    intro state value after start ran
    cases ran
    exact holds state start
  raises := by
    intro state error after _ ran
    cases ran

theorem bind
    {first : Program State Error Value}
    {second : Value → Program State Error Next}
    {middle : Value → State → Prop}
    {returned : Next → State → Prop}
    (early : Meets before first middle raised)
    (late : ∀ value, Meets (middle value) (second value) returned raised) :
    Meets before (first >>= second) returned raised where
  returns := by
    intro state result after start ran
    obtain ⟨value, reached, ranFirst, ranSecond⟩ := bind_eq_ok ran
    exact (late value).returns (early.returns start ranFirst) ranSecond
  raises := by
    intro state error after start ran
    cases ranFirst : first state with
    | mk outcome reached =>
        cases outcome with
        | ok value =>
            rw [bind_of_ok ranFirst] at ran
            exact (late value).raises (early.returns start ranFirst) ran
        | error other =>
            rw [bind_of_error ranFirst] at ran
            cases ran
            exact early.raises start ranFirst

/-- What is read is the state at that point. -/
theorem read
    {rest : State → Program State Error Value}
    (late :
      ∀ seen,
        Meets (fun state => before state ∧ state = seen) (rest seen) returned
          raised) :
    Meets before (Program.read >>= rest) returned raised where
  returns := fun {state} _ _ start ran =>
    (late state).returns ⟨start, rfl⟩ ran
  raises := fun {state} _ _ start ran =>
    (late state).raises ⟨start, rfl⟩ ran

/-- A handler that takes every error. -/
theorem rescue
    {body : Program State Error Value}
    {handler : Error → Program State Error Value}
    {failed : Error → State → Prop}
    (early : Meets before body returned failed)
    (late : ∀ error, Meets (failed error) (handler error) returned raised) :
    Meets before (handle body (fun _ => true) handler) returned raised where
  returns := by
    intro state result after start ran
    cases ranBody : body state with
    | mk outcome reached =>
        cases outcome with
        | ok value =>
            rw [handle_of_ok ranBody] at ran
            cases ran
            exact early.returns start ranBody
        | error error =>
            rw [handle_of_error ranBody rfl] at ran
            exact (late error).returns (early.raises start ranBody) ran
  raises := by
    intro state other after start ran
    cases ranBody : body state with
    | mk outcome reached =>
        cases outcome with
        | ok value =>
            rw [handle_of_ok ranBody] at ran
            cases ran
        | error error =>
            rw [handle_of_error ranBody rfl] at ran
            exact (late error).raises (early.raises start ranBody) ran

/-- A cleanup runs in any case, and its own error is what is raised. -/
theorem cleanedUp
    {body : Program State Error Value}
    {cleanup : Program State Error Unit}
    {middle : Value → State → Prop}
    {failed : Error → State → Prop}
    (early : Meets before body middle failed)
    (onReturn :
      ∀ value,
        Meets (middle value) cleanup (fun _ => returned value) raised)
    (onRaise :
      ∀ error,
        Meets (failed error) cleanup (fun _ => raised error) raised) :
    Meets before (Program.cleanedUp body cleanup) returned raised where
  returns := by
    intro state result after start ran
    obtain ⟨reached, ranBody, cleaned⟩ := cleanedUp_eq_ok ran
    exact (onReturn result).returns (early.returns start ranBody) cleaned
  raises := by
    intro state other after start ran
    unfold Program.cleanedUp at ran
    cases ranBody : body state with
    | mk outcome reached =>
        rw [ranBody] at ran
        cases cleaned : cleanup reached with
        | mk ended final =>
            simp only [cleaned] at ran
            cases outcome with
            | ok value =>
                cases ended with
                | ok _ => cases ran
                | error error =>
                    cases ran
                    exact (onReturn value).raises
                      (early.returns start ranBody) cleaned
            | error error =>
                have reachedFailed := early.raises start ranBody
                cases ended with
                | ok _ =>
                    have handled :=
                      (onRaise error).returns reachedFailed cleaned
                    cases ran
                    exact handled
                | error last =>
                    cases ran
                    exact (onRaise error).raises reachedFailed cleaned

end Meets

end Program

end Raising
