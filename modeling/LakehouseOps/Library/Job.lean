import Mathlib.Data.List.Basic

/-!
# Jobs that publish in atomic commits

A job reads a durable state, changes it by atomic commits and returns or fails.
Its execution keeps every committed state, because a crash can leave the job
after any of them, and the commits made before a failure stay.
-/

namespace LakehouseOps
namespace Library

/-- What running a job leaves behind: the committed states in order, the state
it ends in, and what it returned. -/
structure Execution (State Error Value : Type) where
  commits : List State
  state : State
  result : Except Error Value

/-- A job over a durable state. -/
def Job (State Error Value : Type) : Type :=
  State -> Execution State Error Value

namespace Job

variable {State Error Value Result : Type}

/-- Continue with the rest of a job after its first part. -/
def continueWith
    (first : Execution State Error Value)
    (next : Value -> Job State Error Result) : Execution State Error Result :=
  match first.result with
  | .error problem =>
      { commits := first.commits, state := first.state, result := .error problem }
  | .ok value =>
      let rest := next value first.state
      { commits := first.commits ++ rest.commits
        state := rest.state
        result := rest.result }

instance : Monad (Job State Error) where
  pure value := fun state =>
    { commits := [], state := state, result := .ok value }
  bind first next := fun state => continueWith (first state) next

/-- Read the durable state. -/
def read : Job State Error State := fun state =>
  { commits := [], state := state, result := .ok state }

/-- Publish a new state in one atomic commit. -/
def commit (update : State -> State) : Job State Error Unit := fun state =>
  { commits := [update state], state := update state, result := .ok () }

/-- Fail with the given error. -/
def fail (problem : Error) : Job State Error Value := fun state =>
  { commits := [], state := state, result := .error problem }

/-- Fail with the given error when a condition holds. -/
def reject
    (condition : Prop)
    [Decidable condition]
    (problem : Error) : Job State Error Unit :=
  if condition then fail problem else pure ()

/-- Use the value of a computation that may fail without touching the state. -/
def attempt : Except Error Value -> Job State Error Value
  | .error problem => fail problem
  | .ok value => pure value

/-- Run a job, and where it fails go on with the handler of its error. -/
def recover
    (job : Job State Error Value)
    (handler : Error -> Job State Error Value) : Job State Error Value := fun state =>
  match (job state).result with
  | .ok _ => job state
  | .error problem =>
      let rest := handler problem (job state).state
      { commits := (job state).commits ++ rest.commits
        state := rest.state
        result := rest.result }

/-! ## Running a job step by step -/

@[simp] theorem pure_run (value : Value) (state : State) :
    (pure value : Job State Error Value) state =
      { commits := [], state := state, result := .ok value } := rfl

@[simp] theorem fail_run (problem : Error) (state : State) :
    (fail problem : Job State Error Value) state =
      { commits := [], state := state, result := .error problem } := rfl

@[simp] theorem commit_run (update : State -> State) (state : State) :
    (commit update : Job State Error Unit) state =
      { commits := [update state], state := update state, result := .ok () } := rfl

theorem bind_run
    (first : Job State Error Value)
    (next : Value -> Job State Error Result)
    (state : State) :
    (first >>= next) state = continueWith (first state) next := rfl

@[simp] theorem pure_bind_run
    (value : Value)
    (next : Value -> Job State Error Result)
    (state : State) :
    ((pure value : Job State Error Value) >>= next) state =
      next value state := by
  simp [bind_run, continueWith]

@[simp] theorem read_bind_run
    (next : State -> Job State Error Result)
    (state : State) :
    ((read : Job State Error State) >>= next) state = next state state := by
  simp [bind_run, continueWith, read]

@[simp] theorem fail_bind_run
    (problem : Error)
    (next : Value -> Job State Error Result)
    (state : State) :
    ((fail problem : Job State Error Value) >>= next) state =
      { commits := [], state := state, result := .error problem } := rfl

theorem commit_bind_run
    (update : State -> State)
    (next : Unit -> Job State Error Result)
    (state : State) :
    ((commit update : Job State Error Unit) >>= next) state =
      { commits := update state :: (next () (update state)).commits
        state := (next () (update state)).state
        result := (next () (update state)).result } := rfl

/-- A rejection whose condition fails is skipped. -/
theorem reject_bind_run_of_not
    {condition : Prop}
    [Decidable condition]
    (fails : ¬condition)
    (problem : Error)
    (next : Unit -> Job State Error Result)
    (state : State) :
    ((reject condition problem : Job State Error Unit) >>= next) state =
      next () state := by
  simp [reject, fails]

/-- A rejection whose condition holds ends the job where it stands. -/
theorem reject_bind_run_of
    {condition : Prop}
    [Decidable condition]
    (holds : condition)
    (problem : Error)
    (next : Unit -> Job State Error Result)
    (state : State) :
    ((reject condition problem : Job State Error Unit) >>= next) state =
      { commits := [], state := state, result := .error problem } := by
  simp [reject, holds]

/-! ## Jobs that return -/

/-- The job, started in the first state, returns the value in the second. -/
def Returns
    (job : Job State Error Value)
    (start : State)
    (value : Value)
    (final : State) : Prop :=
  (job start).result = .ok value ∧ (job start).state = final

theorem returns_of_result
    {job : Job State Error Value}
    {start : State}
    {value : Value}
    (returned : (job start).result = .ok value) :
    Returns job start value (job start).state :=
  ⟨returned, rfl⟩

theorem returns_pure_iff {start final : State} {value result : Value} :
    Returns (pure value : Job State Error Value) start result final ↔
      result = value ∧ final = start := by
  simp [Returns, eq_comm]

theorem not_returns_fail {problem : Error} {start final : State} {value : Value} :
    ¬Returns (fail problem : Job State Error Value) start value final := by
  simp [Returns]

theorem returns_reject_iff
    {condition : Prop}
    [Decidable condition]
    {problem : Error}
    {start final : State}
    {value : Unit} :
    Returns (reject condition problem : Job State Error Unit) start value final ↔
      ¬condition ∧ final = start := by
  by_cases holds : condition
  · simp [reject, holds, not_returns_fail]
  · simp [reject, holds, returns_pure_iff]

theorem returns_read_iff {start final value : State} :
    Returns (read : Job State Error State) start value final ↔
      value = start ∧ final = start := by
  simp [Returns, read, eq_comm]

theorem returns_commit_iff {update : State -> State} {start final : State} {value : Unit} :
    Returns (commit update : Job State Error Unit) start value final ↔
      final = update start := by
  simp [Returns, eq_comm]

/-- A sequence returns exactly when its parts do, one after the other. -/
theorem returns_bind_iff
    {first : Job State Error Value}
    {next : Value -> Job State Error Result}
    {start final : State}
    {result : Result} :
    Returns (first >>= next) start result final ↔
      Exists fun value => Exists fun middle =>
        Returns first start value middle ∧ Returns (next value) middle result final := by
  unfold Returns
  rw [bind_run]
  unfold continueWith
  cases (first start).result with
  | error problem => simp
  | ok value =>
      constructor
      · rintro ⟨returned, ends⟩
        exact ⟨value, (first start).state, ⟨rfl, rfl⟩, returned, ends⟩
      · rintro ⟨value, middle, ⟨same, rfl⟩, returned, ends⟩
        injection same with same
        subst same
        exact ⟨returned, ends⟩

/-- A sequence whose second part only returns fails where its first part does. -/
theorem bind_pure_failed
    {job : Job State Error Value}
    {outcome : Value -> Result}
    {start : State}
    {problem : Error}
    (failed : ((job >>= fun value => pure (outcome value)) start).result = .error problem) :
    (job start).result = .error problem ∧
      ((job >>= fun value => pure (outcome value)) start).state = (job start).state := by
  rw [bind_run] at failed ⊢
  unfold continueWith at failed ⊢
  cases first : (job start).result with
  | error text =>
      simp only [first] at failed ⊢
      injection failed with same
      exact ⟨congrArg _ same, trivial⟩
  | ok value =>
      simp only [first, pure_run, reduceCtorEq] at failed

theorem returns_foldlM_cons
    {step : Result -> Value -> Job State Error Result}
    {value : Value}
    {values : List Value}
    {accumulated result : Result}
    {start final : State} :
    Returns ((value :: values).foldlM step accumulated) start result final ↔
      Exists fun next => Exists fun middle =>
        Returns (step accumulated value) start next middle ∧
          Returns (values.foldlM step next) middle result final :=
  returns_bind_iff

/-- A recovering job returns when the job does, or when it fails and the handler
returns. -/
theorem returns_recover
    {job : Job State Error Value}
    {handler : Error -> Job State Error Value}
    {start final : State}
    {value : Value}
    (returned : Returns (recover job handler) start value final) :
    Returns job start value final ∨
      Exists fun problem => (job start).result = .error problem ∧
        Returns (handler problem) (job start).state value final := by
  unfold Returns recover at returned
  cases outcome : (job start).result with
  | ok result =>
      rw [outcome] at returned
      exact Or.inl returned
  | error problem =>
      rw [outcome] at returned
      exact Or.inr ⟨problem, rfl, returned⟩

/-! ## Refusals -/

/-- The execution failed before its first commit and left the state alone. -/
structure Refused (start : State) (execution : Execution State Error Value) : Prop where
  commits : execution.commits = []
  state : execution.state = start
  failed : Exists fun problem => execution.result = .error problem

theorem refused_fail (problem : Error) (state : State) :
    Refused state ((fail problem : Job State Error Value) state) :=
  ⟨rfl, rfl, problem, rfl⟩

/-- A rejection in front of a job refuses, or the rest of the job decides. -/
theorem refused_or_of_reject
    {condition : Prop}
    [Decidable condition]
    {problem : Error}
    {next : Unit -> Job State Error Result}
    {state : State}
    {outcome : Prop}
    (continues : ¬condition -> Refused state (next () state) ∨ outcome) :
    Refused state (((reject condition problem : Job State Error Unit) >>= next) state) ∨
      outcome := by
  by_cases holds : condition
  · left
    rw [reject_bind_run_of holds]
    exact ⟨rfl, rfl, problem, rfl⟩
  · rw [reject_bind_run_of_not holds]
    exact continues holds

end Job

end Library
end LakehouseOps
