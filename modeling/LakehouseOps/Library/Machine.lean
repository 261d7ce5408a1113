import Mathlib.Data.List.Basic

/-!
# Event-driven machines

A machine has a state and reacts to a list of events, one after another. An
interleaving of several parties is a list of events, so a property of every
interleaving is a property of every run. The rules below turn a fact about one
step into a fact about every run.
-/

namespace LakehouseOps
namespace Library

/-- A deterministic machine. What an event does not determine (which party
moves, whether a call fails) is part of the event. -/
structure Machine (State Event : Type*) where
  initial : State
  step : State -> Event -> State

namespace Machine

variable {State Event : Type*} (machine : Machine State Event)

/-- Run the machine from a given state. -/
def runFrom (state : State) (events : List Event) : State :=
  events.foldl machine.step state

/-- Run the machine from its initial state. -/
def run (events : List Event) : State :=
  machine.runFrom machine.initial events

@[simp] theorem runFrom_nil (state : State) :
    machine.runFrom state [] = state := rfl

@[simp] theorem runFrom_cons
    (state : State)
    (event : Event)
    (events : List Event) :
    machine.runFrom state (event :: events) =
      machine.runFrom (machine.step state event) events := rfl

theorem runFrom_append
    (state : State)
    (before after : List Event) :
    machine.runFrom state (before ++ after) =
      machine.runFrom (machine.runFrom state before) after :=
  List.foldl_append

theorem run_append (before after : List Event) :
    machine.run (before ++ after) =
      machine.runFrom (machine.run before) after :=
  machine.runFrom_append machine.initial before after

/-- A property that every step preserves. -/
def Preserves (property : State -> Prop) : Prop :=
  forall state event, property state -> property (machine.step state event)

/-- A preserved property holds at the end of every run that starts with it. -/
theorem Preserves.runFrom
    {machine : Machine State Event}
    {property : State -> Prop}
    (preserves : machine.Preserves property)
    {state : State}
    (start : property state)
    (events : List Event) :
    property (machine.runFrom state events) := by
  induction events generalizing state with
  | nil => exact start
  | cons event events inductionHypothesis =>
      exact inductionHypothesis (preserves state event start)

/-- The invariant rule: a property of the initial state that every step
preserves holds in every reachable state. -/
theorem Preserves.run
    {machine : Machine State Event}
    {property : State -> Prop}
    (preserves : machine.Preserves property)
    (start : property machine.initial)
    (events : List Event) :
    property (machine.run events) :=
  preserves.runFrom start events

/-- The monotonicity rule: a reflexive and transitive relation that every step
from an invariant state respects relates every two states of a run. -/
theorem Preserves.relates
    {machine : Machine State Event}
    {invariant : State -> Prop}
    (preserves : machine.Preserves invariant)
    {relation : State -> State -> Prop}
    (reflexive : forall state, relation state state)
    (transitive : forall first second third,
      relation first second -> relation second third -> relation first third)
    (step : forall state event,
      invariant state -> relation state (machine.step state event))
    {state : State}
    (start : invariant state)
    (events : List Event) :
    relation state (machine.runFrom state events) := by
  induction events generalizing state with
  | nil => exact reflexive state
  | cons event events inductionHypothesis =>
      exact transitive _ _ _ (step state event start)
        (inductionHypothesis (preserves state event start))

end Machine

end Library
end LakehouseOps
