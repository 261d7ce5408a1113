import Mathlib
import LakehouseOps.Library.Fallible
import LakehouseOps.Library.Machine

/-!
# Tasks in groups

The tasks of a list run in groups of a bounded size. The tasks of a group are computed side
by side and end in any order. Their results are taken in the order of the list, and the next
group is submitted after the last result of a group was taken. The first error that is taken
cancels what has not begun, waits for what has, and is the outcome.
-/

namespace LakehouseOps
namespace Library

inductive TaskStatus
  | waiting
  | running
  | finished
  | cancelled
  deriving DecidableEq

/-- A task that has not begun does not begin any more. -/
def TaskStatus.cancel : TaskStatus -> TaskStatus
  | .waiting => .cancelled
  | other => other

/-- The events that are left for a task. -/
def TaskStatus.left : TaskStatus -> Nat
  | .waiting => 2
  | .running => 1
  | _ => 0

/-- A worker begins or ends a task, which is given by its place in the group, or the submitter
goes on. -/
inductive TaskEvent
  | start (index : Nat)
  | finish (index : Nat)
  | collect

/-- The tasks, the size of a group, and what a task computes. -/
structure TaskGroups (Task Error Result : Type) where
  tasks : List Task
  workers : Nat
  positive : 0 < workers
  compute : Task -> Except Error Result

namespace TaskGroups

variable {Task Error Result : Type} (groups : TaskGroups Task Error Result)

/-- The tasks one after the other. -/
def serial : Except Error (List Result) :=
  groups.tasks.mapM groups.compute

structure State (Error Result : Type) where
  /-- Where the next group begins. -/
  offset : Nat
  /-- How many results were taken. -/
  taken : Nat
  /-- The tasks of the group whose results were not taken. -/
  group : List TaskStatus
  results : List Result
  failure : Option Error
  /-- The tasks that have begun, by their places in the list. -/
  started : List Nat
  outcome : Option (Except Error (List Result))

def start : State Error Result where
  offset := 0
  taken := 0
  group := []
  results := []
  failure := none
  started := []
  outcome := none

/-- A status that a submitter with an error does not wait for. -/
def isOver (status : TaskStatus) : Bool :=
  status = .finished ∨ status = .cancelled

/-- The call is over. -/
def settle (state : State Error Result) (outcome : Except Error (List Result)) :
    State Error Result :=
  { state with outcome := some outcome }

/-- Submit the next group; after the last one the results are returned. -/
def submit (state : State Error Result) : State Error Result :=
  if state.offset < groups.tasks.length then
    { state with
      offset := state.offset + groups.workers
      group := List.replicate (min groups.workers (groups.tasks.length - state.offset)) .waiting }
  else settle state (.ok state.results)

/-- Take the result of the first task of the group, which has ended. -/
def take (state : State Error Result) (rest : List TaskStatus) : State Error Result :=
  match groups.tasks[state.taken]? with
  | none => state
  | some task =>
      match groups.compute task with
      | .ok result =>
          { state with
            taken := state.taken + 1
            group := rest
            results := state.results ++ [result] }
      | .error problem =>
          { state with
            taken := state.taken + 1
            group := rest.map TaskStatus.cancel
            failure := some problem }

/-- The submitter goes on, unless it has to wait. -/
def collect (state : State Error Result) : State Error Result :=
  match state.outcome, state.failure, state.group with
  | some _, _, _ => state
  | none, some problem, group =>
      if group.all isOver = true then settle state (.error problem) else state
  | none, none, [] => groups.submit state
  | none, none, .finished :: rest => groups.take state rest
  | none, none, _ :: _ => state

def step (state : State Error Result) : TaskEvent -> State Error Result
  | .start index =>
      if state.group[index]? = some .waiting then
        { state with
          group := state.group.set index .running
          started := state.started ++ [state.taken + index] }
      else state
  | .finish index =>
      if state.group[index]? = some .running then
        { state with group := state.group.set index .finished }
      else state
  | .collect => groups.collect state

def machine : Machine (State Error Result) TaskEvent where
  initial := start
  step := groups.step

/-! ## The invariant -/

/-- What every schedule keeps. -/
structure Kept (state : State Error Result) : Prop where
  aligned : groups.workers ∣ state.offset
  submitted : state.taken + state.group.length = min state.offset groups.tasks.length
  /-- A group is submitted after all tasks of the groups before it have returned. -/
  inOrder : forall position task problem, groups.tasks[position]? = some task ->
    groups.compute task = .error problem ->
      state.offset ≤ (position / groups.workers + 1) * groups.workers
  results : state.failure = none ->
    (groups.tasks.take state.taken).mapM groups.compute = .ok state.results
  failure : forall problem, state.failure = some problem -> groups.serial = .error problem
  uncancelled : state.failure = none -> TaskStatus.cancelled ∉ state.group
  started : forall position, position ∈ state.started ->
    position < state.taken + state.group.length
  outcome : forall outcome, state.outcome = some outcome -> outcome = groups.serial

variable {groups} {state : State Error Result}

theorem Kept.initial : groups.Kept start where
  aligned := Nat.dvd_zero _
  submitted := (Nat.zero_min _).symm
  inOrder _ _ _ _ _ := Nat.zero_le _
  results _ := rfl
  failure := nofun
  uncancelled _ := List.not_mem_nil
  started _ member := absurd member List.not_mem_nil
  outcome := nofun

/-- A task that was taken without an error has returned. -/
theorem Kept.returned (kept : groups.Kept state) (unfailed : state.failure = none)
    {position : Nat} {task : Task} {problem : Error}
    (isTask : groups.tasks[position]? = some task)
    (fails : groups.compute task = .error problem) : state.taken ≤ position := by
  by_contra before
  have isTaken : task ∈ groups.tasks.take state.taken := by
    refine List.mem_of_getElem? (i := position) ?_
    rw [List.getElem?_take_of_lt (by omega)]
    exact isTask
  obtain ⟨result, returns⟩ :=
    Fallible.mapM_returns_iff.mp ⟨_, kept.results unfailed⟩ task isTaken
  rw [fails] at returns
  nomatch returns

theorem Kept.begin (kept : groups.Kept state) {index : Nat}
    (waits : state.group[index]? = some .waiting) :
    groups.Kept { state with
      group := state.group.set index .running
      started := state.started ++ [state.taken + index] } where
  aligned := kept.aligned
  submitted := by
    rw [List.length_set]
    exact kept.submitted
  inOrder := kept.inOrder
  results := kept.results
  failure := kept.failure
  uncancelled unfailed member := by
    rcases List.mem_or_eq_of_mem_set member with before | same
    · exact kept.uncancelled unfailed before
    · nomatch same
  started position member := by
    rw [List.length_set]
    rcases List.mem_append.mp member with before | new
    · exact kept.started position before
    · rw [List.mem_singleton.mp new]
      exact Nat.add_lt_add_left (List.getElem?_eq_some_iff.mp waits).1 _
  outcome := kept.outcome

theorem Kept.end (kept : groups.Kept state) (index : Nat) :
    groups.Kept { state with group := state.group.set index .finished } where
  aligned := kept.aligned
  submitted := by
    rw [List.length_set]
    exact kept.submitted
  inOrder := kept.inOrder
  results := kept.results
  failure := kept.failure
  uncancelled unfailed member := by
    rcases List.mem_or_eq_of_mem_set member with before | same
    · exact kept.uncancelled unfailed before
    · nomatch same
  started position member := by
    rw [List.length_set]
    exact kept.started position member
  outcome := kept.outcome

theorem Kept.settle (kept : groups.Kept state) {outcome : Except Error (List Result)}
    (same : outcome = groups.serial) : groups.Kept (settle state outcome) :=
  { kept with
    outcome := fun _ isOutcome => (Option.some.inj isOutcome) ▸ same }

theorem Kept.submit (kept : groups.Kept state) (unfailed : state.failure = none)
    (isEmpty : state.group = []) : groups.Kept (groups.submit state) := by
  have submitted := kept.submitted
  rw [isEmpty, List.length_nil, Nat.add_zero] at submitted
  unfold TaskGroups.submit
  by_cases more : state.offset < groups.tasks.length
  · rw [if_pos more]
    rw [Nat.min_eq_left (Nat.le_of_lt more)] at submitted
    refine ⟨Nat.dvd_add kept.aligned (Nat.dvd_refl _), ?_, ?_, kept.results, kept.failure, ?_, ?_,
      kept.outcome⟩
    · rw [List.length_replicate]
      dsimp only
      omega
    · intro position task problem isTask fails
      have later := kept.returned unfailed isTask fails
      obtain ⟨count, isCount⟩ := kept.aligned
      have counted : count ≤ position / groups.workers := by
        rw [Nat.le_div_iff_mul_le groups.positive, Nat.mul_comm, ← isCount]
        omega
      calc state.offset + groups.workers
          = (count + 1) * groups.workers := by rw [isCount, Nat.add_mul, Nat.one_mul, Nat.mul_comm]
        _ ≤ (position / groups.workers + 1) * groups.workers :=
            Nat.mul_le_mul_right _ (Nat.add_le_add_right counted 1)
    · intro _ member
      nomatch List.eq_of_mem_replicate member
    · intro position member
      have before := kept.started position member
      rw [isEmpty] at before
      exact Nat.lt_of_lt_of_le before (Nat.add_le_add_left (Nat.zero_le _) _)
  · rw [if_neg more]
    refine kept.settle ?_
    have all : state.taken = groups.tasks.length := by omega
    rw [← kept.results unfailed, all, List.take_length]
    rfl

theorem Kept.take (kept : groups.Kept state) (unfailed : state.failure = none)
    (unended : state.outcome = none) {first : TaskStatus} {rest : List TaskStatus}
    (isGroup : state.group = first :: rest) : groups.Kept (groups.take state rest) := by
  have submitted := kept.submitted
  rw [isGroup, List.length_cons] at submitted
  have started : forall position, position ∈ state.started ->
      position < state.taken + 1 + rest.length := by
    intro position member
    have before := kept.started position member
    rw [isGroup, List.length_cons] at before
    omega
  have same : state.taken + 1 + rest.length = min state.offset groups.tasks.length := by omega
  have uncancelled : TaskStatus.cancelled ∉ rest := fun member =>
    kept.uncancelled unfailed (isGroup ▸ List.mem_cons_of_mem _ member)
  unfold TaskGroups.take
  cases isTask : groups.tasks[state.taken]? with
  | none => exact kept
  | some task =>
      have taken : groups.tasks.take (state.taken + 1) =
          groups.tasks.take state.taken ++ [task] := by
        rw [List.take_add_one, isTask, Option.toList_some]
      dsimp only
      cases returns : groups.compute task with
      | ok result =>
          refine ⟨kept.aligned, same, kept.inOrder, fun _ => ?_, kept.failure,
            fun _ => uncancelled, started, kept.outcome⟩
          rw [taken]
          exact Fallible.mapM_concat_ok (kept.results unfailed) returns
      | error problem =>
          refine ⟨kept.aligned, ?_, kept.inOrder, nofun, ?_, nofun, ?_, ?_⟩
          · rw [List.length_map]
            exact same
          · rintro _ ⟨⟩
            rw [serial, ← List.take_append_drop (state.taken + 1) groups.tasks, taken,
              List.append_assoc]
            exact Fallible.mapM_append_error (kept.results unfailed) returns
          · rw [List.length_map]
            exact started
          · rw [unended]
            nofun

theorem Kept.collect (kept : groups.Kept state) : groups.Kept (groups.collect state) := by
  unfold TaskGroups.collect
  cases isOutcome : state.outcome with
  | some outcome => exact kept
  | none =>
      cases isFailure : state.failure with
      | some problem =>
          dsimp only
          by_cases ended : state.group.all isOver = true
          · rw [if_pos ended]
            exact kept.settle (kept.failure problem isFailure).symm
          · rw [if_neg ended]
            exact kept
      | none =>
          cases isGroup : state.group with
          | nil => exact kept.submit isFailure isGroup
          | cons first rest =>
              cases first with
              | finished => exact kept.take isFailure isOutcome isGroup
              | _ => exact kept

theorem Kept.step (kept : groups.Kept state) (event : TaskEvent) :
    groups.Kept (groups.step state event) := by
  cases event with
  | start index =>
      unfold TaskGroups.step
      dsimp only
      by_cases waits : state.group[index]? = some .waiting
      · rw [if_pos waits]
        exact kept.begin waits
      · rw [if_neg waits]
        exact kept
  | finish index =>
      unfold TaskGroups.step
      dsimp only
      by_cases runs : state.group[index]? = some .running
      · rw [if_pos runs]
        exact kept.end index
      · rw [if_neg runs]
        exact kept
  | collect => exact kept.collect

theorem kept_run (events : List TaskEvent) : groups.Kept (groups.machine.run events) :=
  Machine.Preserves.run (fun _ event kept => kept.step event) Kept.initial events

/-! ## Progress -/

/-- How much is left to do. -/
def left (state : State Error Result) : Nat :=
  4 * (groups.tasks.length - state.offset) + (state.group.map TaskStatus.left).sum +
    state.group.length + if state.outcome.isSome then 0 else 1

theorem sum_set_lt {statuses : List TaskStatus} {index : Nat} {before after : TaskStatus}
    (isStatus : statuses[index]? = some before) (less : after.left < before.left) :
    ((statuses.set index after).map TaskStatus.left).sum < (statuses.map TaskStatus.left).sum := by
  induction statuses generalizing index with
  | nil => nomatch isStatus
  | cons first rest inductionHypothesis =>
      cases index with
      | zero =>
          obtain rfl := Option.some.inj isStatus
          simp only [List.set_cons_zero, List.map_cons, List.sum_cons]
          omega
      | succ index =>
          have shorter := inductionHypothesis isStatus
          simp only [List.set_cons_succ, List.map_cons, List.sum_cons]
          omega

theorem sum_cancel_le (statuses : List TaskStatus) :
    ((statuses.map TaskStatus.cancel).map TaskStatus.left).sum ≤
      (statuses.map TaskStatus.left).sum := by
  induction statuses with
  | nil => exact Nat.le_refl _
  | cons status statuses inductionHypothesis =>
      have less : status.cancel.left ≤ status.left := by
        cases status <;> decide
      exact Nat.add_le_add less inductionHypothesis

theorem left_settle (unended : state.outcome = none) (outcome : Except Error (List Result)) :
    groups.left (settle state outcome) < groups.left state := by
  simp only [left, settle, unended]
  exact Nat.add_lt_add_left Nat.zero_lt_one _

/-- Where nothing waits or runs, the submitter goes on. -/
theorem Kept.collect_less (kept : groups.Kept state) (unended : state.outcome = none)
    (ended : forall status, status ∈ state.group -> status = .finished ∨ status = .cancelled) :
    groups.left (groups.step state .collect) < groups.left state := by
  change groups.left (groups.collect state) < groups.left state
  unfold TaskGroups.collect
  rw [unended]
  cases isFailure : state.failure with
  | some problem =>
      have all : state.group.all isOver = true :=
        List.all_eq_true.mpr fun status member => decide_eq_true (ended status member)
      dsimp only
      rw [if_pos all]
      exact left_settle unended _
  | none =>
      cases isGroup : state.group with
      | nil =>
          dsimp only
          unfold TaskGroups.submit
          by_cases more : state.offset < groups.tasks.length
          · have positive := groups.positive
            rw [if_pos more]
            simp only [left, isGroup, List.length_replicate, List.map_replicate,
              List.sum_replicate_nat, List.map_nil, List.sum_nil, List.length_nil,
              TaskStatus.left]
            omega
          · rw [if_neg more]
            exact left_settle unended _
      | cons first rest =>
          have submitted := kept.submitted
          rw [isGroup, List.length_cons] at submitted
          have inList : state.taken < groups.tasks.length := by omega
          obtain rfl : first = .finished :=
            (ended first (isGroup ▸ List.mem_cons_self)).resolve_right fun cancelled =>
              kept.uncancelled isFailure (isGroup ▸ cancelled ▸ List.mem_cons_self)
          dsimp only
          unfold TaskGroups.take
          rw [List.getElem?_eq_getElem inList]
          dsimp only
          cases groups.compute groups.tasks[state.taken] with
          | ok result =>
              simp only [left, isGroup, List.map_cons, List.sum_cons, List.length_cons]
              omega
          | error problem =>
              have less := sum_cancel_le rest
              simp only [left, isGroup, List.map_cons, List.sum_cons, List.length_cons,
                List.length_map]
              omega

/-- While there is no outcome, some event leaves less to do. -/
theorem Kept.progress (kept : groups.Kept state) (unended : state.outcome = none) :
    Exists fun event => groups.left (groups.step state event) < groups.left state := by
  by_cases waits : TaskStatus.waiting ∈ state.group
  · obtain ⟨index, isStatus⟩ := List.mem_iff_getElem?.mp waits
    have less := sum_set_lt isStatus (by decide : TaskStatus.running.left < TaskStatus.waiting.left)
    refine ⟨.start index, ?_⟩
    simp only [TaskGroups.step, if_pos isStatus, left, List.length_set]
    omega
  · by_cases runs : TaskStatus.running ∈ state.group
    · obtain ⟨index, isStatus⟩ := List.mem_iff_getElem?.mp runs
      have less :=
        sum_set_lt isStatus (by decide : TaskStatus.finished.left < TaskStatus.running.left)
      refine ⟨.finish index, ?_⟩
      simp only [TaskGroups.step, if_pos isStatus, left, List.length_set]
      omega
    · refine ⟨.collect, ?_⟩
      have ended : forall status, status ∈ state.group ->
          status = .finished ∨ status = .cancelled := by
        intro status member
        cases status with
        | waiting => exact absurd member waits
        | running => exact absurd member runs
        | finished => exact Or.inl rfl
        | cancelled => exact Or.inr rfl
      exact kept.collect_less unended ended

/-- The tasks never wait for each other: every schedule can be led to its outcome. -/
theorem Kept.completes (kept : groups.Kept state) :
    Exists fun events => (groups.machine.runFrom state events).outcome = some groups.serial := by
  induction isLeft : groups.left state using Nat.strongRecOn generalizing state with
  | _ count inductionHypothesis =>
      cases isOutcome : state.outcome with
      | some outcome =>
          refine ⟨[], ?_⟩
          rw [Machine.runFrom_nil, isOutcome, kept.outcome outcome isOutcome]
      | none =>
          obtain ⟨event, less⟩ := kept.progress isOutcome
          obtain ⟨events, ends⟩ := inductionHypothesis _ (isLeft ▸ less) (kept.step event) rfl
          exact ⟨event :: events, ends⟩

/-- A task that has begun is in a group at or before that of every failing task. -/
theorem Kept.started_bounded (kept : groups.Kept state) {position failing : Nat} {task : Task}
    {problem : Error} (hasStarted : position ∈ state.started)
    (isTask : groups.tasks[failing]? = some task)
    (fails : groups.compute task = .error problem) :
    position / groups.workers ≤ failing / groups.workers := by
  have before := kept.started position hasStarted
  rw [kept.submitted] at before
  have bounded := kept.inOrder failing task problem isTask fails
  refine Nat.le_of_lt_succ ((Nat.div_lt_iff_lt_mul groups.positive).mpr ?_)
  exact Nat.lt_of_lt_of_le before (Nat.le_trans (Nat.min_le_left _ _) bounded)

end TaskGroups
end Library
end LakehouseOps
