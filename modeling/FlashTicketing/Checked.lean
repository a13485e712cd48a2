import Mathlib

namespace Checked

/-!
# Checked computations

A body that may abort is an `Except` computation.  Its guards and partial reads
are written with `ensure` and `require`; the inversion lemmas below take an
accepted body apart into the facts that every guard established, so clients
never unfold the monad.
-/

variable {Failure Value Next Item : Type}

/-- Continue only when a decidable condition holds. -/
def ensure
    (condition : Prop)
    [Decidable condition]
    (failure : Failure) :
    Except Failure Unit :=
  if condition then .ok () else .error failure

/-- Continue only with the value of a partial read. -/
def require
    (read : Option Value)
    (failure : Failure) :
    Except Failure Value :=
  match read with
  | some value => .ok value
  | none => .error failure

@[simp] theorem bind_eq_ok
    {first : Except Failure Value}
    {second : Value → Except Failure Next}
    {result : Next} :
    (first >>= second) = .ok result ↔
      ∃ value, first = .ok value ∧ second value = .ok result := by
  cases first with
  | error failure =>
      simp [bind, Except.bind]
  | ok value =>
      simp [bind, Except.bind]

@[simp] theorem ok_bind
    (value : Value)
    (rest : Value → Except Failure Next) :
    (Except.ok value >>= rest) = rest value :=
  rfl

@[simp] theorem error_bind
    (failure : Failure)
    (rest : Value → Except Failure Next) :
    (Except.error failure >>= rest) = .error failure :=
  rfl

@[simp] theorem pure_eq_ok
    {value result : Value} :
    (pure value : Except Failure Value) = .ok result ↔
      value = result := by
  simp [pure, Except.pure]

@[simp] theorem throw_eq_ok
    {failure : Failure}
    {result : Value} :
    (throw failure : Except Failure Value) = .ok result ↔ False := by
  simp [throw, throwThe, MonadExceptOf.throw]

@[simp] theorem ensure_eq_ok
    {condition : Prop}
    [Decidable condition]
    {failure : Failure}
    {result : Unit} :
    ensure condition failure = .ok result ↔ condition := by
  unfold ensure
  split <;> simp_all

@[simp] theorem require_eq_ok
    {read : Option Value}
    {failure : Failure}
    {value : Value} :
    require read failure = .ok value ↔ read = some value := by
  cases read <;> simp [require]

@[simp] theorem require_some
    (value : Value)
    (failure : Failure) :
    require (some value) failure = .ok value :=
  rfl

/-- A failed guard aborts the rest of the body. -/
theorem ensure_bind_of_not
    {condition : Prop}
    [Decidable condition]
    {failure : Failure}
    (fails : ¬ condition)
    (rest : Unit → Except Failure Next) :
    (ensure condition failure >>= rest) = .error failure := by
  simp [ensure, fails, bind, Except.bind]

/-- A satisfied guard disappears. -/
theorem ensure_bind_of_true
    {condition : Prop}
    [Decidable condition]
    {failure : Failure}
    (holds : condition)
    (rest : Unit → Except Failure Next) :
    (ensure condition failure >>= rest) = rest () := by
  simp [ensure, holds, bind, Except.bind]

/-- A body of one checked update per item keeps what each update keeps. -/
theorem foldlM_invariant
    {State : Type}
    {update : State → Item → Except Failure State}
    {invariant : State → Prop}
    {items : List Item}
    (preserved :
      ∀ {state item next},
        item ∈ items →
        invariant state →
        update state item = .ok next →
        invariant next)
    {start final : State}
    (holds : invariant start)
    (accepted : items.foldlM update start = .ok final) :
    invariant final := by
  induction items generalizing start with
  | nil =>
      simp only [List.foldlM_nil, pure_eq_ok] at accepted
      exact accepted ▸ holds
  | cons item rest inductionHypothesis =>
      simp only [List.foldlM_cons, bind_eq_ok] at accepted
      obtain ⟨middle, itemAccepted, restAccepted⟩ := accepted
      exact inductionHypothesis
        (fun member => preserved (List.mem_cons_of_mem _ member))
        (preserved List.mem_cons_self holds itemAccepted)
        restAccepted

/-! ## Failures that a body never has -/

/-- A body that aborts, if at all, with no failure of the given kind. -/
def Avoids
    (kind : Failure → Prop)
    (body : Except Failure Value) : Prop :=
  ∀ failure, body = .error failure → ¬ kind failure

section Avoids

variable {kind : Failure → Prop}

theorem avoids_pure (value : Value) :
    Avoids kind (pure value : Except Failure Value) := by
  intro failure aborted
  cases aborted

theorem avoids_ensure
    (condition : Prop)
    [Decidable condition]
    {failure : Failure}
    (other : ¬ kind failure) :
    Avoids kind (ensure condition failure) := by
  intro raised aborted
  unfold ensure at aborted
  split at aborted <;> cases aborted
  exact other

theorem avoids_require
    (read : Option Value)
    {failure : Failure}
    (other : ¬ kind failure) :
    Avoids kind (require read failure) := by
  intro raised aborted
  cases read <;> cases aborted
  exact other

theorem Avoids.bind
    {first : Except Failure Value}
    {rest : Value → Except Failure Next}
    (firstAvoids : Avoids kind first)
    (restAvoids : ∀ value, first = .ok value → Avoids kind (rest value)) :
    Avoids kind (first >>= rest) := by
  intro failure aborted
  cases isFirst : first with
  | error raised =>
      rw [isFirst] at aborted
      cases aborted
      exact firstAvoids _ isFirst
  | ok value =>
      rw [isFirst] at aborted
      exact restAvoids value isFirst failure aborted

theorem avoids_foldlM
    {State : Type}
    {update : State → Item → Except Failure State}
    (updateAvoids : ∀ state item, Avoids kind (update state item))
    (items : List Item)
    (start : State) :
    Avoids kind (items.foldlM update start) := by
  induction items generalizing start with
  | nil => exact avoids_pure start
  | cons item rest inductionHypothesis =>
      exact (updateAvoids start item).bind
        fun next _ => inductionHypothesis next

end Avoids

end Checked
