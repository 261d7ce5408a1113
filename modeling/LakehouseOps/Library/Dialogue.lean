import Mathlib.Data.List.Basic

/-!
# Programs that ask their environment

A program ends, fails, or sends a request and goes on with the answer. What the
environment answers is not restricted, so a fact about all lists of answers is a fact
about every behaviour of the environment, and a list that ends early is a run that was
cut off. `Holds` is the rule for such facts: a guard for every request, which may look at
the exchanges before it, and a condition on the exchanges when the program has ended.
-/

namespace LakehouseOps
namespace Library

/-- A program over an environment. -/
inductive Dialogue (Request Answer Error Value : Type)
  | done (value : Value)
  | fail (problem : Error)
  | ask (request : Request) (next : Answer -> Dialogue Request Answer Error Value)

/-- Requests with their answers, in order. -/
abbrev Exchanges (Request Answer : Type) := List (Request × Answer)

namespace Dialogue

variable {Request Answer Reply Error Value Result : Type}

/-- Go on with the value of the first program. -/
def andThen
    (first : Dialogue Request Answer Error Value)
    (next : Value -> Dialogue Request Answer Error Result) :
    Dialogue Request Answer Error Result :=
  match first with
  | .done value => next value
  | .fail problem => .fail problem
  | .ask request rest => .ask request fun answer => (rest answer).andThen next

instance : Monad (Dialogue Request Answer Error) where
  pure := .done
  bind := andThen

/-- Go on with the cleanup, however the body ends, and then end as the body did. -/
def lastly
    (body : Dialogue Request Answer Error Value)
    (cleanup : Dialogue Request Answer Error Unit) : Dialogue Request Answer Error Value :=
  match body with
  | .done value => cleanup.andThen fun _ => .done value
  | .fail problem => cleanup.andThen fun _ => .fail problem
  | .ask request rest => .ask request fun answer => (rest answer).lastly cleanup

/-- Go on, whether the body has a value or an error. -/
def recover
    {Failure : Type}
    (body : Dialogue Request Answer Failure Value)
    (next : Except Failure Value -> Dialogue Request Answer Error Result) :
    Dialogue Request Answer Error Result :=
  match body with
  | .done value => next (.ok value)
  | .fail problem => next (.error problem)
  | .ask request rest => .ask request fun answer => (rest answer).recover next

/-- Use the value of a computation that may fail. -/
def attempt : Except Error Value -> Dialogue Request Answer Error Value
  | .ok value => .done value
  | .error problem => .fail problem

/-- The program with its errors told in another way. -/
def mapFail
    {Failure : Type}
    (tell : Failure -> Error)
    (body : Dialogue Request Answer Failure Value) : Dialogue Request Answer Error Value :=
  body.recover fun outcome => attempt (outcome.mapError tell)

/-- Fail with the given error when a condition holds. -/
def reject (condition : Prop) [Decidable condition] (problem : Error) :
    Dialogue Request Answer Error Unit :=
  if condition then .fail problem else .done ()

/-- Send a request; an error that it raises ends the program. -/
def query (request : Request) : Dialogue Request (Except Error Reply) Error Reply :=
  .ask request attempt

@[simp] theorem pure_eq (value : Value) :
    (pure value : Dialogue Request Answer Error Value) = .done value := rfl

@[simp] theorem done_bind
    (value : Value)
    (next : Value -> Dialogue Request Answer Error Result) :
    ((.done value : Dialogue Request Answer Error Value) >>= next) = next value := rfl

@[simp] theorem fail_bind
    (problem : Error)
    (next : Value -> Dialogue Request Answer Error Result) :
    ((.fail problem : Dialogue Request Answer Error Value) >>= next) = .fail problem := rfl

/-! ## Runs over given answers -/

/-- What a run over some answers has done. -/
structure Talk (Request Answer Error Value : Type) where
  exchanges : Exchanges Request Answer
  /-- A request without an answer. -/
  pending : Option Request
  result : Option (Except Error Value)

/-- Run a program over some answers. -/
def run : Dialogue Request Answer Error Value -> List Answer -> Talk Request Answer Error Value
  | .done value, _ => { exchanges := [], pending := none, result := some (.ok value) }
  | .fail problem, _ => { exchanges := [], pending := none, result := some (.error problem) }
  | .ask request _, [] => { exchanges := [], pending := some request, result := none }
  | .ask request next, answer :: answers =>
      let rest := (next answer).run answers
      { rest with exchanges := (request, answer) :: rest.exchanges }

/-- A run takes its answers from the list. -/
theorem mem_answers
    {program : Dialogue Request Answer Error Value}
    {answers : List Answer}
    {request : Request}
    {answer : Answer}
    (exchanged : (request, answer) ∈ (program.run answers).exchanges) : answer ∈ answers := by
  induction program generalizing answers with
  | done value => exact absurd exchanged List.not_mem_nil
  | fail problem => exact absurd exchanged List.not_mem_nil
  | ask asked next inductionHypothesis =>
      cases answers with
      | nil => exact absurd exchanged List.not_mem_nil
      | cons first answers =>
          rcases List.mem_cons.mp exchanged with same | later
          · exact (Prod.mk.inj same).2 ▸ List.mem_cons_self
          · exact List.mem_cons_of_mem _ (inductionHypothesis first later)

/-- The run has sent the request after the given exchanges. -/
def Talk.Sent
    (talk : Talk Request Answer Error Value)
    (before : Exchanges Request Answer)
    (request : Request) : Prop :=
  (Exists fun answer => Exists fun rest => talk.exchanges = before ++ (request, answer) :: rest) ∨
    (talk.exchanges = before ∧ talk.pending = some request)

/-- Every request satisfies the guard, and the end satisfies the condition. -/
def Holds
    (guard : Exchanges Request Answer -> Request -> Prop)
    (post : Exchanges Request Answer -> Except Error Value -> Prop)
    (before : Exchanges Request Answer) : Dialogue Request Answer Error Value -> Prop
  | .done value => post before (.ok value)
  | .fail problem => post before (.error problem)
  | .ask request next =>
      guard before request ∧ forall answer, (next answer).Holds guard post
        (before ++ [(request, answer)])

section Rules

variable {guard : Exchanges Request Answer -> Request -> Prop}
variable {post : Exchanges Request Answer -> Except Error Value -> Prop}

/-- The guard rule: whatever the answers are, every request satisfies the guard. -/
theorem Holds.sent
    {before : Exchanges Request Answer}
    {program : Dialogue Request Answer Error Value}
    (holds : program.Holds guard post before)
    (answers : List Answer)
    {earlier : Exchanges Request Answer}
    {request : Request}
    (sent : (program.run answers).Sent earlier request) :
    guard (before ++ earlier) request := by
  induction program generalizing before answers earlier with
  | done value =>
      rcases sent with ⟨answer, rest, split⟩ | ⟨_, pending⟩
      · exact absurd split (by simp [run])
      · exact absurd pending (by simp [run])
  | fail problem =>
      rcases sent with ⟨answer, rest, split⟩ | ⟨_, pending⟩
      · exact absurd split (by simp [run])
      · exact absurd pending (by simp [run])
  | ask asked next inductionHypothesis =>
      obtain ⟨guarded, continues⟩ := holds
      cases answers with
      | nil =>
          rcases sent with ⟨answer, rest, split⟩ | ⟨rfl, pending⟩
          · exact absurd split (by simp [run])
          · rw [show (Dialogue.run (.ask asked next) []).exchanges = ([] : List _) from rfl,
              List.append_nil]
            exact Option.some.inj pending ▸ guarded
      | cons answer answers =>
          cases earlier with
          | nil =>
              rcases sent with ⟨_, _, split⟩ | ⟨empty, _⟩
              · simp only [run, List.nil_append, List.cons.injEq, Prod.mk.injEq] at split
                rw [List.append_nil, ← split.1.1]
                exact guarded
              · exact absurd empty (by simp [run])
          | cons first earlier =>
              have later : ((next answer).run answers).Sent earlier request ∧
                  first = (asked, answer) := by
                rcases sent with ⟨reply, rest, split⟩ | ⟨same, pending⟩
                · simp only [run, List.cons_append, List.cons.injEq] at split
                  exact ⟨Or.inl ⟨reply, rest, split.2⟩, split.1.symm⟩
                · simp only [run, List.cons.injEq] at same
                  exact ⟨Or.inr ⟨same.2, pending⟩, same.1.symm⟩
              have guardedLater := inductionHypothesis answer (continues answer) answers later.1
              rw [later.2, ← List.append_cons] at *
              exact guardedLater

/-- The end rule: when the program has ended, the condition holds. -/
theorem Holds.ended
    {before : Exchanges Request Answer}
    {program : Dialogue Request Answer Error Value}
    (holds : program.Holds guard post before)
    (answers : List Answer)
    {result : Except Error Value}
    (ended : (program.run answers).result = some result) :
    post (before ++ (program.run answers).exchanges) result := by
  induction program generalizing before answers with
  | done value =>
      rw [show (Dialogue.run (.done value) answers).exchanges = ([] : List _) from rfl,
        List.append_nil, ← Option.some.inj ended]
      exact holds
  | fail problem =>
      rw [show (Dialogue.run (.fail problem) answers).exchanges = ([] : List _) from rfl,
        List.append_nil, ← Option.some.inj ended]
      exact holds
  | ask asked next inductionHypothesis =>
      cases answers with
      | nil => exact absurd ended.symm (Option.some_ne_none _)
      | cons answer answers =>
          have later := inductionHypothesis answer (holds.2 answer) answers ended
          rw [← List.append_cons] at later
          exact later

/-- A stronger end condition. -/
theorem Holds.mono
    {weaker : Exchanges Request Answer -> Except Error Value -> Prop}
    {before : Exchanges Request Answer}
    {program : Dialogue Request Answer Error Value}
    (holds : program.Holds guard post before)
    (implies : forall exchanges result, post exchanges result -> weaker exchanges result) :
    program.Holds guard weaker before := by
  induction program generalizing before with
  | done value => exact implies _ _ holds
  | fail problem => exact implies _ _ holds
  | ask asked next inductionHypothesis =>
      exact ⟨holds.1, fun answer => inductionHypothesis answer (holds.2 answer)⟩

/-- The sequence rule. -/
theorem Holds.bind
    {after : Exchanges Request Answer -> Except Error Result -> Prop}
    {before : Exchanges Request Answer}
    {first : Dialogue Request Answer Error Value}
    {next : Value -> Dialogue Request Answer Error Result}
    (holds : first.Holds guard
      (fun exchanges result =>
        match result with
        | .ok value => (next value).Holds guard after exchanges
        | .error problem => after exchanges (.error problem)) before) :
    (first >>= next).Holds guard after before := by
  induction first generalizing before with
  | done value => exact holds
  | fail problem => exact holds
  | ask asked rest inductionHypothesis =>
      exact ⟨holds.1, fun answer => inductionHypothesis answer (holds.2 answer)⟩

/-- The rule of a cleanup. -/
theorem Holds.lastly
    {before : Exchanges Request Answer}
    {body : Dialogue Request Answer Error Value}
    {cleanup : Dialogue Request Answer Error Unit}
    (holds : body.Holds guard
      (fun exchanges result => cleanup.Holds guard
        (fun later cleaned =>
          match cleaned with
          | .ok _ => post later result
          | .error problem => post later (.error problem)) exchanges) before) :
    (body.lastly cleanup).Holds guard post before := by
  induction body generalizing before with
  | done value =>
      have cleaned : cleanup.Holds guard _ before := holds
      refine Holds.bind (cleaned.mono fun later result ends => ?_)
      cases result <;> exact ends
  | fail problem =>
      have cleaned : cleanup.Holds guard _ before := holds
      refine Holds.bind (cleaned.mono fun later result ends => ?_)
      cases result <;> exact ends
  | ask asked rest inductionHypothesis =>
      exact ⟨holds.1, fun answer => inductionHypothesis answer (holds.2 answer)⟩

/-- The rule of going on whatever happens. -/
theorem Holds.recover
    {Failure : Type}
    {after : Exchanges Request Answer -> Except Error Result -> Prop}
    {before : Exchanges Request Answer}
    {body : Dialogue Request Answer Failure Value}
    {next : Except Failure Value -> Dialogue Request Answer Error Result}
    (holds : body.Holds guard (fun exchanges result => (next result).Holds guard after exchanges)
      before) :
    (body.recover next).Holds guard after before := by
  induction body generalizing before with
  | done value => exact holds
  | fail problem => exact holds
  | ask asked rest inductionHypothesis =>
      exact ⟨holds.1, fun answer => inductionHypothesis answer (holds.2 answer)⟩

/-- The rule of errors told in another way. -/
theorem Holds.mapFail
    {Failure : Type}
    {before : Exchanges Request Answer}
    {body : Dialogue Request Answer Failure Value}
    {tell : Failure -> Error}
    (holds : body.Holds guard (fun exchanges result => post exchanges (result.mapError tell))
      before) :
    (body.mapFail tell).Holds guard post before := by
  refine Holds.recover (holds.mono fun exchanges result ends => ?_)
  cases result <;> exact ends

/-- The rule of all points of a run: what guards and ends imply holds however far the run
has got. -/
theorem Holds.always
    {reached : Exchanges Request Answer -> Prop}
    {before : Exchanges Request Answer}
    {program : Dialogue Request Answer Error Value}
    (holds : program.Holds guard post before)
    (guarded : forall exchanges request, guard exchanges request -> reached exchanges)
    (ended : forall exchanges result, post exchanges result -> reached exchanges)
    (answers : List Answer) :
    reached (before ++ (program.run answers).exchanges) := by
  induction program generalizing before answers with
  | done value =>
      rw [show (Dialogue.run (.done value) answers).exchanges = ([] : List _) from rfl,
        List.append_nil]
      exact ended _ _ holds
  | fail problem =>
      rw [show (Dialogue.run (.fail problem) answers).exchanges = ([] : List _) from rfl,
        List.append_nil]
      exact ended _ _ holds
  | ask asked next inductionHypothesis =>
      cases answers with
      | nil =>
          rw [show (Dialogue.run (.ask asked next) []).exchanges = ([] : List _) from rfl,
            List.append_nil]
          exact guarded _ _ holds.1
      | cons answer answers =>
          have later := inductionHypothesis answer (holds.2 answer) answers
          rw [← List.append_cons] at later
          exact later

/-- A computation that sends nothing. -/
theorem holds_attempt_bind
    {after : Exchanges Request Answer -> Except Error Result -> Prop}
    {before : Exchanges Request Answer}
    {outcome : Except Error Value}
    {next : Value -> Dialogue Request Answer Error Result}
    (returned : forall value, outcome = .ok value -> (next value).Holds guard after before)
    (failed : forall problem, outcome = .error problem -> after before (.error problem)) :
    ((attempt outcome : Dialogue Request Answer Error Value) >>= next).Holds guard after before := by
  cases outcome with
  | ok value => exact returned value rfl
  | error problem => exact failed problem rfl

theorem holds_reject_bind
    {after : Exchanges Request Answer -> Except Error Result -> Prop}
    {before : Exchanges Request Answer}
    {condition : Prop}
    [Decidable condition]
    {problem : Error}
    {next : Unit -> Dialogue Request Answer Error Result}
    (passes : ¬condition -> (next ()).Holds guard after before)
    (fails : condition -> after before (.error problem)) :
    ((reject condition problem : Dialogue Request Answer Error Unit) >>= next).Holds
      guard after before := by
  unfold reject
  by_cases holds : condition
  · rw [if_pos holds]
    exact fails holds
  · rw [if_neg holds]
    exact passes holds

end Rules

/-- A request that may raise. -/
theorem holds_query_bind
    {guard : Exchanges Request (Except Error Reply) -> Request -> Prop}
    {after : Exchanges Request (Except Error Reply) -> Except Error Result -> Prop}
    {before : Exchanges Request (Except Error Reply)}
    {request : Request}
    {next : Reply -> Dialogue Request (Except Error Reply) Error Result}
    (guarded : guard before request)
    (answered : forall reply,
      (next reply).Holds guard after (before ++ [(request, .ok reply)]))
    (raised : forall problem, after (before ++ [(request, .error problem)]) (.error problem)) :
    ((query request : Dialogue Request (Except Error Reply) Error Reply) >>= next).Holds
      guard after before := by
  refine ⟨guarded, fun answer => ?_⟩
  cases answer with
  | ok reply => exact answered reply
  | error problem => exact raised problem

/-! ## Programs that send some requests only -/

/-- Every request of the program is allowed, whatever the answers are. -/
def Sends (allowed : Request -> Prop) : Dialogue Request Answer Error Value -> Prop
  | .done _ => True
  | .fail _ => True
  | .ask request next => allowed request ∧ forall answer, (next answer).Sends allowed

section Sends

variable {allowed : Request -> Prop}

theorem Sends.bind
    {first : Dialogue Request Answer Error Value}
    {next : Value -> Dialogue Request Answer Error Result}
    (sends : first.Sends allowed)
    (rest : forall value, (next value).Sends allowed) :
    (first >>= next).Sends allowed := by
  induction first with
  | done value => exact rest value
  | fail problem => trivial
  | ask asked next inductionHypothesis =>
      exact ⟨sends.1, fun answer => inductionHypothesis answer (sends.2 answer)⟩

theorem Sends.lastly
    {body : Dialogue Request Answer Error Value}
    {cleanup : Dialogue Request Answer Error Unit}
    (sends : body.Sends allowed)
    (cleans : cleanup.Sends allowed) :
    (body.lastly cleanup).Sends allowed := by
  induction body with
  | done value => exact Sends.bind cleans fun _ => trivial
  | fail problem => exact Sends.bind cleans fun _ => trivial
  | ask asked next inductionHypothesis =>
      exact ⟨sends.1, fun answer => inductionHypothesis answer (sends.2 answer)⟩

theorem Sends.recover
    {Failure : Type}
    {body : Dialogue Request Answer Failure Value}
    {next : Except Failure Value -> Dialogue Request Answer Error Result}
    (sends : body.Sends allowed)
    (rest : forall outcome, (next outcome).Sends allowed) :
    (body.recover next).Sends allowed := by
  induction body with
  | done value => exact rest (.ok value)
  | fail problem => exact rest (.error problem)
  | ask asked next inductionHypothesis =>
      exact ⟨sends.1, fun answer => inductionHypothesis answer (sends.2 answer)⟩

theorem sends_attempt (outcome : Except Error Value) :
    (attempt outcome : Dialogue Request Answer Error Value).Sends allowed := by
  cases outcome <;> trivial

theorem sends_query {request : Request} (isAllowed : allowed request) :
    (query request : Dialogue Request (Except Error Reply) Error Reply).Sends allowed :=
  ⟨isAllowed, fun answer => sends_attempt answer⟩

theorem Sends.mapFail
    {Failure : Type}
    {body : Dialogue Request Answer Failure Value}
    (tell : Failure -> Error)
    (sends : body.Sends allowed) :
    (body.mapFail tell).Sends allowed :=
  Sends.recover sends fun outcome => sends_attempt (outcome.mapError tell)

/-- Such a program keeps what allowed exchanges keep. -/
theorem Sends.holds
    {guard : Exchanges Request Answer -> Request -> Prop}
    {invariant : Exchanges Request Answer -> Prop}
    {program : Dialogue Request Answer Error Value}
    (sends : program.Sends allowed)
    (guarded : forall before request, invariant before -> allowed request -> guard before request)
    (kept : forall before request answer, invariant before -> allowed request ->
      invariant (before ++ [(request, answer)]))
    {before : Exchanges Request Answer}
    (start : invariant before) :
    program.Holds guard (fun exchanges _ => invariant exchanges) before := by
  induction program generalizing before with
  | done value => exact start
  | fail problem => exact start
  | ask asked next inductionHypothesis =>
      exact ⟨guarded _ _ start sends.1, fun answer =>
        inductionHypothesis answer (sends.2 answer) (kept _ _ _ start sends.1)⟩

end Sends

/-! ## Runs over an environment that does not change -/

/-- Run a program over an environment whose answer depends on the request only. -/
def converse (respond : Request -> Answer) :
    Dialogue Request Answer Error Value -> Exchanges Request Answer × Except Error Value
  | .done value => ([], .ok value)
  | .fail problem => ([], .error problem)
  | .ask request next =>
      let rest := (next (respond request)).converse respond
      ((request, respond request) :: rest.1, rest.2)

theorem converse_bind
    (respond : Request -> Answer)
    (first : Dialogue Request Answer Error Value)
    (next : Value -> Dialogue Request Answer Error Result) :
    (first >>= next).converse respond =
      match first.converse respond with
      | (exchanges, .ok value) =>
          (exchanges ++ ((next value).converse respond).1, ((next value).converse respond).2)
      | (exchanges, .error problem) => (exchanges, .error problem) := by
  induction first with
  | done value => simp [converse]
  | fail problem => rfl
  | ask request rest inductionHypothesis =>
      have step := inductionHypothesis (respond request)
      change (((rest (respond request)) >>= next).converse respond |> fun later =>
        ((request, respond request) :: later.1, later.2)) = _
      rw [step]
      simp only [converse]
      cases ((rest (respond request)).converse respond) with
      | mk exchanges result => cases result <;> rfl

end Dialogue

end Library
end LakehouseOps
