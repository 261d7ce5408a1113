import LakehouseOps.Library.Dialogue

/-!
# Loops that ask their environment

A loop stops in a state, or asks and goes on with the answer. Nothing says that it ever
stops: that is a fact about the loop and the answers it gets. A run is against an
environment that has a state of its own and is free to choose among the answers it serves.
-/

namespace LakehouseOps
namespace Library

/-- What a loop does next. -/
inductive Turn (State Request Answer Value : Type)
  | stop (value : Value)
  | ask (request : Request) (next : Answer -> State)

/-- A loop over an environment, by what it does in each state. -/
structure Loop (State Request Answer Value : Type) where
  turn : State -> Turn State Request Answer Value

namespace Loop

variable {State Request Answer Value Env : Type}

/-- The runs of a loop against an environment, with what was exchanged. -/
inductive Runs
    (loop : Loop State Request Answer Value)
    (serves : Env -> Request -> Answer -> Env -> Prop) :
    State -> Env -> Exchanges Request Answer -> State -> Env -> Prop
  | refl (state : State) (env : Env) : Runs loop serves state env [] state env
  | ask {state final : State} {env later finalEnv : Env} {request : Request} {answer : Answer}
      {next : Answer -> State} {exchanges : Exchanges Request Answer}
      (asks : loop.turn state = .ask request next)
      (served : serves env request answer later)
      (rest : Runs loop serves (next answer) later exchanges final finalEnv) :
      Runs loop serves state env ((request, answer) :: exchanges) final finalEnv

section Rules

variable {loop : Loop State Request Answer Value}
variable {serves : Env -> Request -> Answer -> Env -> Prop}

/-- The invariant rule: what every exchange preserves holds at the end of every run. The
invariant may look at what was exchanged before. -/
theorem Runs.preserves
    {invariant : Exchanges Request Answer -> State -> Env -> Prop}
    (step : forall before state env request next answer later,
      invariant before state env ->
      loop.turn state = .ask request next ->
      serves env request answer later ->
      invariant (before ++ [(request, answer)]) (next answer) later)
    {state final : State}
    {env finalEnv : Env}
    {exchanges : Exchanges Request Answer}
    (runs : Runs loop serves state env exchanges final finalEnv)
    {before : Exchanges Request Answer}
    (start : invariant before state env) :
    invariant (before ++ exchanges) final finalEnv := by
  induction runs generalizing before with
  | refl state env =>
      rw [List.append_nil]
      exact start
  | ask asks served _ inductionHypothesis =>
      have later := inductionHypothesis (step _ _ _ _ _ _ _ start asks served)
      rw [← List.append_cons] at later
      exact later

/-- The variant rule: a measure that every exchange of a run lowers bounds the number of
exchanges. -/
theorem Runs.bounded
    (invariant : State -> Env -> Prop)
    (measure : State -> Env -> Nat)
    (step : forall state env request next answer later,
      invariant state env ->
      loop.turn state = .ask request next ->
      serves env request answer later ->
      invariant (next answer) later ∧ measure (next answer) later < measure state env)
    {state final : State}
    {env finalEnv : Env}
    {exchanges : Exchanges Request Answer}
    (runs : Runs loop serves state env exchanges final finalEnv)
    (start : invariant state env) :
    exchanges.length + measure final finalEnv ≤ measure state env := by
  induction runs with
  | refl state env => exact Nat.le_of_eq (Nat.zero_add _)
  | ask asks served _ inductionHypothesis =>
      obtain ⟨holds, lower⟩ := step _ _ _ _ _ _ start asks served
      have later := inductionHypothesis holds
      rw [List.length_cons]
      omega

end Rules

/-! ## Streams of answers -/

/-- The answers come one after another, whatever is asked. -/
def stream (answers : Nat -> Answer) : Nat -> Request -> Answer -> Nat -> Prop :=
  fun index _ answer later => answer = answers index ∧ later = index + 1

/-- From an answer on, the loop stops with the value. -/
def StopsFrom
    (loop : Loop State Request Answer Value)
    (answers : Nat -> Answer)
    (index : Nat)
    (state : State)
    (value : Value) : Prop :=
  Exists fun exchanges => Exists fun final => Exists fun later =>
    Runs loop (stream answers) state index exchanges final later ∧
      loop.turn final = .stop value

/-- What an answer makes of a loop that reads one answer after another. -/
inductive Progress (State Value : Type)
  | waiting (state : State)
  | ended (value : Value)

/-- The loop that asks until an answer ends it. -/
def reading
    (request : State -> Request)
    (read : State -> Answer -> Progress State Value) :
    Loop (Progress State Value) Request Answer Value where
  turn := fun
    | .waiting state => .ask (request state) (read state)
    | .ended value => .stop value

section Progress

variable {request : State -> Request}
variable {read : State -> Answer -> Progress State Value}
variable {answers : Nat -> Answer}

theorem stopsFrom_ended (index : Nat) (value : Value) :
    (reading request read).StopsFrom answers index (.ended value) value :=
  ⟨[], _, _, .refl _ _, rfl⟩

/-- A loop that waits stops exactly when it does after the next answer. -/
theorem stopsFrom_waiting_iff {index : Nat} {state : State} {value : Value} :
    (reading request read).StopsFrom answers index (.waiting state) value ↔
      (reading request read).StopsFrom answers (index + 1) (read state (answers index)) value := by
  constructor
  · rintro ⟨exchanges, final, later, runs, stops⟩
    cases runs with
    | refl => cases stops
    | ask asks served rest =>
        cases asks
        obtain ⟨rfl, rfl⟩ := served
        exact ⟨_, _, _, rest, stops⟩
  · rintro ⟨exchanges, final, later, runs, stops⟩
    exact ⟨_, _, _, .ask rfl ⟨rfl, rfl⟩ runs, stops⟩

/-- The invariant rule: what every answer preserves that lets the loop wait holds before the
answer that ends it. -/
theorem StopsFrom.ended_by
    (invariant : Nat -> State -> Prop)
    (step : forall index state next,
      invariant index state ->
      read state (answers index) = .waiting next ->
      invariant (index + 1) next)
    {index : Nat}
    {state : State}
    {value : Value}
    (stops : (reading request read).StopsFrom answers index (.waiting state) value)
    (start : invariant index state) :
    Exists fun last => Exists fun final =>
      invariant last final ∧ read final (answers last) = .ended value := by
  obtain ⟨exchanges, final, later, runs, stops⟩ := stops
  generalize isStart : Progress.waiting state = reached at runs
  induction runs generalizing state with
  | refl reached env =>
      subst isStart
      cases stops
  | ask asks served rest inductionHypothesis =>
      subst isStart
      cases asks
      obtain ⟨rfl, rfl⟩ := served
      cases isNext : read state (answers _) with
      | waiting next => exact inductionHypothesis (step _ _ _ start isNext) stops isNext.symm
      | ended other =>
          rw [isNext] at rest
          cases rest with
          | refl =>
              cases stops
              exact ⟨_, state, start, isNext⟩
          | ask asks served rest => cases asks

/-- Where the answers alone tell whether they end the loop, it stops exactly when there is
one that does. -/
theorem stops_iff_ends
    {ends : Answer -> Prop}
    (decides : forall state answer,
      (Exists fun value => read state answer = .ended value) ↔ ends answer)
    (state : State) :
    (Exists fun value => (reading request read).StopsFrom answers 0 (.waiting state) value) ↔
      Exists fun index => ends (answers index) := by
  constructor
  · rintro ⟨value, stops⟩
    obtain ⟨last, final, _, ended⟩ :=
      stops.ended_by (fun _ _ => True) (fun _ _ _ _ _ => trivial) trivial
    exact ⟨last, (decides final _).mp ⟨value, ended⟩⟩
  · rintro ⟨last, ends⟩
    suffices reaches : forall distance index state, index + distance = last ->
        Exists fun value => (reading request read).StopsFrom answers index (.waiting state) value
      from reaches last 0 state (Nat.zero_add last)
    intro distance
    induction distance with
    | zero =>
        rintro index state rfl
        obtain ⟨value, ended⟩ := (decides state _).mpr ends
        exact ⟨value, stopsFrom_waiting_iff.mpr (ended ▸ stopsFrom_ended _ value)⟩
    | succ distance inductionHypothesis =>
        intro index state isLast
        cases isNext : read state (answers index) with
        | ended value =>
            exact ⟨value, stopsFrom_waiting_iff.mpr (isNext ▸ stopsFrom_ended _ value)⟩
        | waiting next =>
            obtain ⟨value, stops⟩ := inductionHypothesis (index + 1) next (by omega)
            exact ⟨value, stopsFrom_waiting_iff.mpr (isNext ▸ stops)⟩

/-- The variant rule: a loop whose waiting lowers a measure stops. -/
theorem stops_of_measure
    (invariant : State -> Prop)
    (measure : State -> Nat)
    (step : forall index state next,
      invariant state ->
      read state (answers index) = .waiting next ->
      invariant next ∧ measure next < measure state)
    {index : Nat}
    {state : State}
    (start : invariant state) :
    Exists fun value =>
      (reading request read).StopsFrom answers index (.waiting state) value := by
  suffices reaches : forall bound index state, invariant state -> measure state < bound ->
      Exists fun value => (reading request read).StopsFrom answers index (.waiting state) value
    from reaches _ index state start (Nat.lt_succ_self _)
  intro bound
  induction bound with
  | zero => exact fun _ _ _ below => absurd below (Nat.not_lt_zero _)
  | succ bound inductionHypothesis =>
      intro index state start below
      cases isNext : read state (answers index) with
      | ended value =>
          exact ⟨value, stopsFrom_waiting_iff.mpr (isNext ▸ stopsFrom_ended _ value)⟩
      | waiting next =>
          obtain ⟨holds, lower⟩ := step index state next start isNext
          obtain ⟨value, stops⟩ := inductionHypothesis (index + 1) next holds (by omega)
          exact ⟨value, stopsFrom_waiting_iff.mpr (isNext ▸ stops)⟩

end Progress

end Loop

end Library
end LakehouseOps
