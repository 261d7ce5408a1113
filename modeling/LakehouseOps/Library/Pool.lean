import LakehouseOps.Library.Dialogue
import LakehouseOps.Library.Machine
import Mathlib.Logic.Function.Basic

/-!
# Programs over one store

Any number of programs take turns over a store that they share. One turn is one exchange of
one program: its next request, and an answer of the store. A program may also crash,
and then takes no turn any more. So a fact about every reachable state is a fact about every
interleaving and every crash.
-/

namespace LakehouseOps
namespace Library
namespace Dialogue

variable {Request Answer Error Value : Type}

/-- An answer to the pending request is one exchange more. -/
theorem run_concat
    {program : Dialogue Request Answer Error Value}
    {answers : List Answer}
    {request : Request}
    (pending : (program.run answers).pending = some request)
    (answer : Answer) :
    (program.run (answers ++ [answer])).exchanges =
      (program.run answers).exchanges ++ [(request, answer)] := by
  induction program generalizing answers with
  | done value => nomatch pending
  | fail problem => nomatch pending
  | ask asked next inductionHypothesis =>
      cases answers with
      | nil =>
          cases pending
          exact congrArg _ (show ((next answer).run []).exchanges = [] by
            cases next answer <;> rfl)
      | cons first answers => exact congrArg _ (inductionHypothesis first pending)

/-- The guard rule for the pending request. -/
theorem Holds.pending
    {guard : Exchanges Request Answer -> Request -> Prop}
    {post : Exchanges Request Answer -> Except Error Value -> Prop}
    {program : Dialogue Request Answer Error Value}
    (holds : program.Holds guard post [])
    {answers : List Answer}
    {request : Request}
    (isPending : (program.run answers).pending = some request) :
    guard (program.run answers).exchanges request := by
  have sent := holds.sent answers (Or.inr ⟨rfl, isPending⟩)
  rw [List.nil_append] at sent
  exact sent

end Dialogue

/-- Programs, one for each process, over a store. -/
structure Pool (Store Request Answer Error Value : Type) where
  program : Nat -> Dialogue Request Answer Error Value
  /-- What the store makes of an answer for a process, and how it is afterwards; nothing where
  it does not answer. -/
  serve : Store -> Nat -> Request -> Answer -> Option (Answer × Store)
  /-- What a process leaves of the store when it crashes. -/
  abandon : Store -> Nat -> Store

namespace Pool

variable {Store Request Answer Error Value : Type}

/-- A state of the pool, with the answers that each process got. -/
structure State (Store Answer : Type) where
  store : Store
  answers : Nat -> List Answer
  crashed : Nat -> Bool

/-- An answer for a process, or a crash. -/
inductive Event (Answer : Type)
  | exchange (process : Nat) (answer : Answer)
  | crash (process : Nat)

/-- A process has got one more answer. -/
def State.answered (state : State Store Answer) (process : Nat) (answer : Answer)
    (later : Store) : State Store Answer where
  store := later
  answers := Function.update state.answers process (state.answers process ++ [answer])
  crashed := state.crashed

/-- A process has crashed. -/
def State.abandoned (state : State Store Answer) (process : Nat) (later : Store) :
    State Store Answer where
  store := later
  answers := state.answers
  crashed := Function.update state.crashed process true

variable (pool : Pool Store Request Answer Error Value)

/-- What a process has exchanged. -/
def history (state : State Store Answer) (process : Nat) : Exchanges Request Answer :=
  ((pool.program process).run (state.answers process)).exchanges

/-- One turn; where the store does not answer, nothing changes. -/
def step (state : State Store Answer) : Event Answer -> State Store Answer
  | .crash process => state.abandoned process (pool.abandon state.store process)
  | .exchange process answer =>
      if state.crashed process = true then state
      else
        match ((pool.program process).run (state.answers process)).pending with
        | none => state
        | some request =>
            match pool.serve state.store process request answer with
            | none => state
            | some (served, later) => state.answered process served later

/-- The pool from a store on, where nobody has got an answer. -/
def machine (initial : Store) : Machine (State Store Answer) (Event Answer) where
  initial := {
    store := initial
    answers := fun _ => []
    crashed := fun _ => false }
  step := pool.step

variable {pool}

theorem history_initial (initial : Store) (process : Nat) :
    pool.history (pool.machine initial).initial process = [] := by
  change ((pool.program process).run []).exchanges = []
  cases pool.program process <;> rfl

theorem history_answered_self
    {state : State Store Answer}
    {process : Nat}
    {request : Request}
    (pending : ((pool.program process).run (state.answers process)).pending = some request)
    (answer : Answer)
    (later : Store) :
    pool.history (state.answered process answer later) process =
      pool.history state process ++ [(request, answer)] := by
  unfold history State.answered
  dsimp only
  rw [Function.update_self]
  exact Dialogue.run_concat pending answer

theorem history_answered_other
    (state : State Store Answer)
    {process other : Nat}
    (different : other ≠ process)
    (answer : Answer)
    (later : Store) :
    pool.history (state.answered process answer later) other = pool.history state other := by
  unfold history State.answered
  dsimp only
  rw [Function.update_of_ne different]

theorem history_abandoned (state : State Store Answer) (process other : Nat) (later : Store) :
    pool.history (state.abandoned process later) other = pool.history state other := rfl

/-- The rule for one turn: a property is preserved when every exchange and every crash
preserve it. -/
theorem preserves
    {initial : Store}
    {property : State Store Answer -> Prop}
    (exchange : forall state process request answer served later,
      property state -> state.crashed process = false ->
      ((pool.program process).run (state.answers process)).pending = some request ->
      pool.serve state.store process request answer = some (served, later) ->
      property (state.answered process served later))
    (crash : forall state process, property state ->
      property (state.abandoned process (pool.abandon state.store process))) :
    (pool.machine initial).Preserves property := by
  intro state event holds
  change property (pool.step state event)
  cases event with
  | crash process => exact crash state process holds
  | exchange process answer =>
      unfold step
      dsimp only
      by_cases crashed : state.crashed process = true
      · rw [if_pos crashed]
        exact holds
      · rw [if_neg crashed]
        cases isPending : ((pool.program process).run (state.answers process)).pending with
        | none => exact holds
        | some request =>
            dsimp only
            cases isServed : pool.serve state.store process request answer with
            | none => exact holds
            | some result =>
                exact exchange state process request answer result.1 result.2 holds
                  (Bool.eq_false_iff.mpr crashed) isPending isServed

end Pool
end Library
end LakehouseOps
