import LakehouseOps.Iceberg.ExecutorGuard

/-!
# The dry run and its apply

Over a table that does not change, the executor reaches the call of an action exactly
when the checks of the action pass on the state of the table. The dry run makes only the
checks that all actions share, so it says nothing about the others.
-/

namespace LakehouseOps
namespace Iceberg

open Library Library.Fallible

/-- An SQL engine over a table that does not change. -/
abbrev LiveTable := Query -> Except String Rows

/-- The state that the engine shows. -/
def liveState (python : Python) (live : LiveTable) (table : String) :
    Except String TableState := do
  let parts <- tableParts table
  let current <- live (.history parts)
  let snapshots <- live (.snapshots parts)
  let files <- live (.dataFiles parts)
  let manifests <- live (.manifests parts)
  tableStateOf python current snapshots files manifests

/-- The session over the engine sends a mutating call. -/
def Sends {Value : Type} (session : Session Value) (live : LiveTable) : Prop :=
  Exists fun exchange => exchange ∈ (session.converse live).1 ∧ exchange.1.mutating = true

/-- The run over the engine sends a mutating call. -/
def Reaches
    (python : Python)
    (plan : Json)
    (actionId : String)
    (options : RunOptions)
    (live : LiveTable) : Prop :=
  Sends (run python plan actionId options) live

instance {Value : Type} (session : Session Value) (live : LiveTable) :
    Decidable (Sends session live) :=
  decidable_of_iff ((session.converse live).1.any (fun exchange => exchange.1.mutating) = true)
    (by simp [Sends])

instance
    (python : Python)
    (plan : Json)
    (actionId : String)
    (options : RunOptions)
    (live : LiveTable) : Decidable (Reaches python plan actionId options live) :=
  inferInstanceAs (Decidable (Sends _ _))

/-- A run without apply returns a dry run. -/
def DryRunReturns (python : Python) (plan : Json) (actionId : String) (live : LiveTable) : Prop :=
  Exists fun options : RunOptions => Exists fun report : MaintenanceExecutionReport =>
    options.apply = false ∧
      ((run python plan actionId options).converse live).2 = .ok report ∧
      report.status = .dryRun

variable {python : Python} {plan : Json} {actionId : String} {live : LiveTable}

/-- Reading the state sends only queries and gives what the engine shows. -/
theorem converse_readState_bind
    {Value : Type}
    (python : Python)
    (live : LiveTable)
    (table : String)
    (next : TableState -> Session Value) :
    Exists fun reads => Reading reads ∧
      (readState python table >>= next).converse live =
        match liveState python live table with
        | .ok state =>
            (reads ++ ((next state).converse live).1, ((next state).converse live).2)
        | .error problem => (reads, .error problem) := by
  have reading : forall reads : Statements, reads.all (fun exchange => exchange.1.reading) ->
      Reading reads := fun reads all => List.all_eq_true.mp all
  rw [Dialogue.converse_bind]
  unfold readState liveState
  cases tableParts table with
  | error problem => exact ⟨[], reading _ rfl, rfl⟩
  | ok parts =>
      simp only [Dialogue.attempt, Dialogue.done_bind, ok_bind, Dialogue.converse_bind,
        Dialogue.query, Dialogue.converse]
      cases live (.history parts) with
      | error problem => exact ⟨_, reading _ rfl, rfl⟩
      | ok current =>
          cases live (.snapshots parts) with
          | error problem => exact ⟨_, reading _ rfl, rfl⟩
          | ok snapshots =>
              cases live (.dataFiles parts) with
              | error problem => exact ⟨_, reading _ rfl, rfl⟩
              | ok files =>
                  cases live (.manifests parts) with
                  | error problem => exact ⟨_, reading _ rfl, rfl⟩
                  | ok manifests =>
                      simp only [Dialogue.converse, ok_bind]
                      cases tableStateOf python current snapshots files manifests with
                      | error problem => exact ⟨_, reading _ rfl, rfl⟩
                      | ok state => exact ⟨_, reading _ rfl, rfl⟩

theorem sends_readState_bind_iff
    {Value : Type}
    {table : String}
    {next : TableState -> Session Value} :
    Sends (readState python table >>= next) live ↔
      Exists fun state => liveState python live table = .ok state ∧ Sends (next state) live := by
  obtain ⟨reads, reading, runs⟩ := converse_readState_bind python live table next
  unfold Sends
  rw [runs]
  cases liveState python live table with
  | error problem =>
      constructor
      · rintro ⟨exchange, member, mutating⟩
        rw [reading.nothingChanged exchange member] at mutating
        exact absurd mutating Bool.false_ne_true
      · rintro ⟨state, isState, _⟩
        contradiction
  | ok state =>
      constructor
      · rintro ⟨exchange, member, mutating⟩
        rcases List.mem_append.mp member with inReads | later
        · rw [reading.nothingChanged exchange inReads] at mutating
          exact absurd mutating Bool.false_ne_true
        · exact ⟨state, rfl, exchange, later, mutating⟩
      · rintro ⟨other, isState, exchange, member, mutating⟩
        injection isState with same
        subst same
        exact ⟨exchange, List.mem_append_right reads member, mutating⟩

theorem sends_attempt_bind_iff
    {Value Result : Type}
    {outcome : Except String Value}
    {next : Value -> Session Result} :
    Sends (Dialogue.attempt outcome >>= next) live ↔
      Exists fun value => outcome = .ok value ∧ Sends (next value) live := by
  cases outcome with
  | error problem => simp [Sends, Dialogue.attempt, Dialogue.converse]
  | ok value => simp [Dialogue.attempt]

theorem not_sends_attempt {Value : Type} (outcome : Except String Value) :
    ¬Sends (Dialogue.attempt outcome : Session Value) live := by
  cases outcome <;> simp [Sends, Dialogue.attempt, Dialogue.converse]

theorem sends_reject_bind_iff
    {Value : Type}
    {condition : Prop}
    [Decidable condition]
    {problem : String}
    {next : Unit -> Session Value} :
    Sends (Dialogue.reject condition problem >>= next) live ↔
      ¬condition ∧ Sends (next ()) live := by
  unfold Dialogue.reject
  by_cases holds : condition
  · simp [holds, Sends, Dialogue.converse]
  · simp [holds]

/-- A mutating call is sent at once. -/
theorem sends_callProcedure
    {selected : Selected}
    {state : TableState}
    {call : Query}
    (mutating : call.mutating = true) :
    Sends (callProcedure python selected state call) live := by
  refine ⟨(call, live call), ?_, mutating⟩
  exact List.mem_cons_self

/-- With matching approvals the run sends a mutating call exactly when the checks of the
action pass on the live state. -/
theorem reaches_iff
    {selected : Selected}
    {options : RunOptions}
    (selection : selectRun plan actionId = .ok selected)
    (kind : selected.actionType ≠ .inspectOrphanFiles)
    (approvals : Approvals selected options) :
    Reaches python plan actionId options live ↔
      Exists fun state => liveState python live selected.table = .ok state ∧
        state.snapshotId = selected.expectedSnapshot ∧
        Exists (Executable python selected state) := by
  have verified : verifyApprovals selected options = .ok () := by
    simp [verifyApprovals, bind_eq_ok_iff, approvals.plan, approvals.snapshot]
  unfold Reaches run runProcedure
  simp only [selection, sends_attempt_bind_iff, sends_readState_bind_iff, sends_reject_bind_iff,
    kind, if_false, approvals.apply, if_true, verified, Except.ok.injEq, exists_eq_left',
    not_ne_iff, procedureCall_eq_ok_iff, true_and, exists_const]
  refine exists_congr fun state => and_congr_right fun _ => and_congr_right fun _ => ?_
  refine exists_congr fun call => ?_
  constructor
  · exact fun both => both.1
  · exact fun executable => ⟨executable, sends_callProcedure executable.mutating.1⟩

/-- A dry run that returns has read the state with the expected snapshot. -/
theorem DryRunReturns.read_state
    {selected : Selected}
    (selection : selectRun plan actionId = .ok selected)
    (dryRun : DryRunReturns python plan actionId live) :
    Exists fun state => liveState python live selected.table = .ok state ∧
      state.snapshotId = selected.expectedSnapshot := by
  obtain ⟨options, report, _, returned, _⟩ := dryRun
  unfold run at returned
  simp only [selection, Dialogue.attempt, Dialogue.done_bind] at returned
  obtain ⟨reads, _, runs⟩ := converse_readState_bind python live selected.table
    fun before => do
      Dialogue.reject (before.snapshotId ≠ selected.expectedSnapshot)
        "current snapshot does not match the plan safety bound"
      if selected.actionType = .inspectOrphanFiles then
        runOrphanFiles python selected options before
      else runProcedure python selected options before
  rw [runs] at returned
  cases isState : liveState python live selected.table with
  | error problem => simp [isState] at returned
  | ok state =>
      simp only [isState] at returned
      refine ⟨state, rfl, ?_⟩
      by_contra differ
      rw [Dialogue.reject, if_pos differ] at returned
      contradiction

/-- After a dry run the apply reaches its call exactly when the checks of the action, which
the dry run leaves out, pass on the state of the table. -/
theorem apply_after_dry_run_iff
    {selected : Selected}
    {options : RunOptions}
    (selection : selectRun plan actionId = .ok selected)
    (kind : selected.actionType ≠ .inspectOrphanFiles)
    (dryRun : DryRunReturns python plan actionId live)
    (approvals : Approvals selected options) :
    Reaches python plan actionId options live ↔
      Exists fun state => liveState python live selected.table = .ok state ∧
        Exists (Executable python selected state) := by
  obtain ⟨state, isState, expected⟩ := dryRun.read_state selection
  rw [reaches_iff selection kind approvals]
  constructor
  · rintro ⟨other, isOther, _, executable⟩
    exact ⟨other, isOther, executable⟩
  · rintro ⟨other, isOther, executable⟩
    have same : state = other := Except.ok.inj (isState.symm.trans isOther)
    subst same
    exact ⟨state, isState, expected, executable⟩

/-! An expiry of the first of three snapshots. -/

def samplePython : Python where
  isDigit := Char.isDigit
  str
    | .string text => text
    | .int number => toString number
    | _ => ""
  str_string := fun _ => rfl
  fromisoformat := fun _ => none
  dumps := fun _ => ""
  sha256 := fun _ => ""

def sampleSafety : Entries :=
  [("dry_run_required", .bool true), ("expected_snapshot_id", .string "3"),
    ("max_concurrent_jobs", .int 1), ("max_snapshots_to_expire", .int 50),
    ("expected_history_snapshot_ids", idArray ["1", "2", "3"])]

def sampleAction : Entries :=
  [("action_id", .string "action-1"), ("action_type", .string "expire_snapshots"),
    ("parameters", .object [("snapshot_ids", idArray ["1"])]),
    ("safety_bounds", .object sampleSafety)]

def samplePlan : Json :=
  .object [("schema_version", .string "1.0"), ("plan_id", .string "plan-1"),
    ("table", .string "lakehouse.silver.weather_hourly"),
    ("actions", .array [.object sampleAction])]

def sampleSelected : Selected where
  planId := "plan-1"
  table := "lakehouse.silver.weather_hourly"
  action := sampleAction
  actionType := .expireSnapshots
  safety := sampleSafety
  expectedSnapshot := "3"

/-- A table with the given snapshots, the last of them the current one. -/
def sampleTable (ids : List String) : LiveTable
  | .history _ => .ok [[("snapshot_id", .string "3")]]
  | .snapshots _ => .ok (ids.map fun id => [("snapshot_id", .string id)])
  | .dataFiles _ => .ok [[("data_file_count", .int 2), ("record_count", .int 20)]]
  | .manifests _ => .ok [[("manifest_count", .int 1)]]
  | _ => .error "unsupported"

def sampleApply : RunOptions where
  apply := true
  approvedPlanId := some "plan-1"
  approvedSnapshotId := some "3"
  approvedCandidateSetId := none
  candidateReport := none

theorem sample_approvals : Approvals sampleSelected sampleApply :=
  ⟨rfl, rfl, rfl⟩

theorem apply_after_dry_run_unchanged :
    Exists fun state =>
      liveState samplePython (sampleTable ["1", "2", "3"]) sampleSelected.table = .ok state ∧
        Exists (Executable samplePython sampleSelected state) :=
  have selection : selectRun samplePlan "action-1" = .ok sampleSelected := rfl
  (apply_after_dry_run_iff selection (by decide)
    ⟨{ sampleApply with apply := false }, _, rfl, rfl, rfl⟩ sample_approvals).mp
    (by decide +kernel)

/-- When the first snapshot has left the history, the dry run still returns. -/
theorem dry_run_accepts_changed_history :
    selectRun samplePlan "action-1" = .ok sampleSelected ∧
      DryRunReturns samplePython samplePlan "action-1" (sampleTable ["2", "3"]) ∧
      Approvals sampleSelected sampleApply ∧
      ¬Reaches samplePython samplePlan "action-1" sampleApply (sampleTable ["2", "3"]) :=
  ⟨rfl, ⟨{ sampleApply with apply := false }, _, rfl, rfl, rfl⟩, sample_approvals,
    by decide +kernel⟩

end Iceberg
end LakehouseOps
