import LakehouseOps.Iceberg.DryRun
import LakehouseOps.Iceberg.Planner

/-!
# Planned actions on the table they were planned from

The planner and the executor state the same bounds twice. An action of a plan is executed
on the table of the report unless the table has more manifests than the fixed bound, the
planner has selected the current snapshot, or the name of the table holds a character
that only the executor refuses.
-/

namespace LakehouseOps
namespace Iceberg

open Library Library.Fallible

variable {Number : Type} {floats : Floats Number}
variable {python : Python} {isoformat : Int -> String}
variable {validate : Json -> Except String Unit}

/-! ## What is selected for expiry -/

/-- A filter that only a start of the list passes commutes with taking a start. -/
theorem take_filter_of_prefix
    {Entry : Type}
    {condition : Entry -> Bool}
    {entries : List Entry}
    (ordered : entries.Pairwise fun left right =>
      condition right = true -> condition left = true)
    (count : Nat) :
    (entries.filter condition).take count = (entries.take count).filter condition := by
  induction entries generalizing count with
  | nil => simp
  | cons first rest inductionHypothesis =>
      obtain ⟨before, restOrdered⟩ := List.pairwise_cons.mp ordered
      cases count with
      | zero => simp
      | succ count =>
          rw [List.take_succ_cons]
          by_cases passes : condition first = true
          · rw [List.filter_cons_of_pos passes, List.filter_cons_of_pos passes,
              List.take_succ_cons, inductionHypothesis restOrdered]
          · have none : forall other, other ∈ rest -> ¬condition other = true :=
              fun other member holds => passes (before other member holds)
            have noneTaken : forall other, other ∈ rest.take count -> ¬condition other = true :=
              fun other member => none other (List.mem_of_mem_take member)
            rw [List.filter_cons_of_neg passes, List.filter_cons_of_neg passes,
              List.filter_eq_nil_iff.mpr none, List.filter_eq_nil_iff.mpr noneTaken,
              List.take_nil]

/-- The entries that are neither among the newest nor beyond the bound. -/
def expirable (minSnapshotsToKeep maxSnapshotsToExpire : Nat) (history : List SnapshotEntry) :
    List SnapshotEntry :=
  (oldestFirst history).take
    (min maxSnapshotsToExpire (history.length - minSnapshotsToKeep))

/-- The selected snapshots: the expirable entries older than the cutoff. -/
theorem take_expiryCandidates
    {history : List SnapshotEntry}
    (unique : (history.map SnapshotEntry.snapshotId).Nodup)
    (minSnapshotsToKeep maxSnapshotsToExpire : Nat)
    (cutoff : Int) :
    (expiryCandidates minSnapshotsToKeep cutoff history).take maxSnapshotsToExpire =
      ((expirable minSnapshotsToKeep maxSnapshotsToExpire history).filter
        fun entry => entry.committedAt < cutoff).map SnapshotEntry.snapshotId := by
  have perm := Table.orderedBy_perm SnapshotEntry.committedAt history
  have ordered := Table.orderedBy_pairwise SnapshotEntry.committedAt history
  have distinct : ((oldestFirst history).map SnapshotEntry.snapshotId).Nodup :=
    (perm.map SnapshotEntry.snapshotId).nodup_iff.mpr unique
  have length : (oldestFirst history).length = history.length := perm.length_eq
  unfold expiryCandidates expirable
  simp only [length]
  generalize history.length - minSnapshotsToKeep = older at *
  have split := List.take_append_drop older (oldestFirst history)
  -- Nothing of the newest entries passes the filter, and nothing of the others is kept.
  have candidates : (oldestFirst history).filter (fun entry => decide (entry.committedAt < cutoff ∧
        entry.snapshotId ∉ ((oldestFirst history).drop older).map SnapshotEntry.snapshotId)) =
      ((oldestFirst history).take older).filter fun entry => entry.committedAt < cutoff := by
    rw [← split, List.map_append, List.nodup_append] at distinct
    obtain ⟨_, _, apart⟩ := distinct
    conv_lhs => rw [← split]
    rw [List.filter_append]
    have newest : ((oldestFirst history).drop older).filter (fun entry =>
        decide (entry.committedAt < cutoff ∧ entry.snapshotId ∉
          ((oldestFirst history).drop older).map SnapshotEntry.snapshotId)) = [] := by
      rw [List.filter_eq_nil_iff]
      intro entry member
      simp only [decide_eq_true_eq, not_and, not_not]
      exact fun _ => List.mem_map_of_mem member
    rw [split, newest, List.append_nil]
    apply List.filter_congr
    intro entry member
    have kept : entry.snapshotId ∉
        ((oldestFirst history).drop older).map SnapshotEntry.snapshotId :=
      fun isKept => apart _ (List.mem_map_of_mem member) _ isKept rfl
    rw [decide_eq_decide]
    exact ⟨fun both => both.1, fun old => ⟨old, kept⟩⟩
  have prefixed : ((oldestFirst history).take older).Pairwise fun left right =>
      decide (right.committedAt < cutoff) = true -> decide (left.committedAt < cutoff) = true := by
    refine (ordered.sublist (List.take_sublist older _)).imp fun before old => ?_
    simp only [decide_eq_true_eq] at old ⊢
    exact lt_of_le_of_lt before old
  rw [candidates, ← List.map_take, take_filter_of_prefix prefixed, List.take_take]

/-! ## The actions of a plan -/

/-- What an action of a plan was planned from. -/
inductive Planned
    (python : Python)
    (policy : MaintenancePolicy floats)
    (report : Entries)
    (source : Source) : PlannedAction -> Prop
  | rewriteDataFiles (reason : String) :
      Planned python policy report source
        (plannedAction python source .rewriteDataFiles "small_files" reason
          [("target_file_size_bytes", .int policy.targetFileSizeBytes)] [])
  | rewriteManifests (reason : String) :
      Planned python policy report source
        (plannedAction python source .rewriteManifests "dense_manifests" reason [] [])
  | expireSnapshots
      (reason : String)
      (snapshots : Entries)
      (history : List Json)
      (normalized : List SnapshotEntry)
      (collected cutoff : Int)
      (isSnapshots : objectField report "snapshots" = .ok snapshots)
      (isHistory : snapshots.lookup "history" = some (.array history))
      (isNormalized : history.mapM (snapshotEntry python) = .ok normalized)
      (unique : (normalized.map SnapshotEntry.snapshotId).Nodup)
      (isCollected : timestamp python source.collectedAt = .ok collected)
      (isCutoff : hoursBefore collected policy.snapshotRetentionHours = .ok cutoff)
      (some_ : expiryCandidates policy.minSnapshotsToKeep cutoff normalized ≠ []) :
      Planned python policy report source
        (plannedAction python source .expireSnapshots "retention_window" reason
          [("snapshot_ids", idArray ((expiryCandidates policy.minSnapshotsToKeep cutoff
            normalized).take policy.maxSnapshotsToExpire))]
          [("max_snapshots_to_expire", .int policy.maxSnapshotsToExpire),
            ("expected_history_snapshot_ids",
              idArray (normalized.map SnapshotEntry.snapshotId))])
  | inspectOrphanFiles (reason : String) (parameters additionalSafety : Entries) :
      Planned python policy report source
        (plannedAction python source .inspectOrphanFiles "scheduled_inventory" reason
          parameters additionalSafety)

variable {policy : MaintenancePolicy floats} {report : Entries} {source : Source}

/-- Data files are checked with no action or with one rewrite. -/
theorem checkDataFiles_cases
    {files : Entries}
    {dataFileCount deleteFileCount : Int}
    {check : PlanCheck}
    {actions : List PlannedAction}
    (checked : checkDataFiles python policy source files dataFileCount deleteFileCount =
      .ok (check, actions)) :
    actions = [] ∨ Exists fun reason =>
      actions = [plannedAction python source .rewriteDataFiles "small_files" reason
        [("target_file_size_bytes", .int policy.targetFileSizeBytes)] []] := by
  unfold checkDataFiles at checked
  obtain ⟨size, _, checked⟩ := bind_eq_ok_iff.mp checked
  obtain ⟨threshold, _, checked⟩ := bind_eq_ok_iff.mp checked
  simp only at checked
  split at checked
  · exact Or.inl (Prod.mk.inj (Except.ok.inj checked)).2.symm
  · split at checked
    · exact Or.inr ⟨_, (Prod.mk.inj (Except.ok.inj checked)).2.symm⟩
    · exact Or.inl (Prod.mk.inj (Except.ok.inj checked)).2.symm

/-- Manifests are checked with no action or with one rewrite. -/
theorem checkManifests_cases
    {manifests : Entries}
    {dataFileCount : Int}
    {check : PlanCheck}
    {actions : List PlannedAction}
    (checked : checkManifests python policy source manifests dataFileCount =
      .ok (check, actions)) :
    actions = [] ∨ Exists fun reason =>
      actions =
        [plannedAction python source .rewriteManifests "dense_manifests" reason [] []] := by
  unfold checkManifests at checked
  obtain ⟨count, _, checked⟩ := bind_eq_ok_iff.mp checked
  obtain ⟨ratio, _, checked⟩ := bind_eq_ok_iff.mp checked
  simp only at checked
  split at checked
  · exact Or.inr ⟨_, (Prod.mk.inj (Except.ok.inj checked)).2.symm⟩
  · exact Or.inl (Prod.mk.inj (Except.ok.inj checked)).2.symm

/-- Snapshots are checked with no action, or with one expiry while there is no reference
but `main`. -/
theorem checkSnapshots_cases
    {check : PlanCheck}
    {actions : List PlannedAction}
    (checked : checkSnapshots python isoformat policy report source = .ok (check, actions)) :
    actions = [] ∨ Exists fun reason => Exists fun snapshots => Exists fun history =>
      Exists fun references => Exists fun normalized => Exists fun collected =>
      Exists fun cutoff =>
        objectField report "snapshots" = .ok snapshots ∧
        snapshots.lookup "history" = some (.array history) ∧
        report.lookup "references" = some (.array references) ∧
        references.filterMap nonMainReference = [] ∧
        history.mapM (snapshotEntry python) = .ok normalized ∧
        (normalized.map SnapshotEntry.snapshotId).Nodup ∧
        timestamp python source.collectedAt = .ok collected ∧
        hoursBefore collected policy.snapshotRetentionHours = .ok cutoff ∧
        expiryCandidates policy.minSnapshotsToKeep cutoff normalized ≠ [] ∧
        actions = [plannedAction python source .expireSnapshots "retention_window" reason
          [("snapshot_ids", idArray ((expiryCandidates policy.minSnapshotsToKeep cutoff
            normalized).take policy.maxSnapshotsToExpire))]
          [("max_snapshots_to_expire", .int policy.maxSnapshotsToExpire),
            ("expected_history_snapshot_ids",
              idArray (normalized.map SnapshotEntry.snapshotId))]] := by
  unfold checkSnapshots at checked
  obtain ⟨snapshots, isSnapshots, checked⟩ := bind_eq_ok_iff.mp checked
  simp only at checked
  split at checked
  · next history references isHistory isReferences =>
      split at checked
      · exact Or.inl (Prod.mk.inj (Except.ok.inj checked)).2.symm
      · next onlyMain =>
          obtain ⟨normalized, isNormalized, checked⟩ := bind_eq_ok_iff.mp checked
          obtain ⟨_, unique, checked⟩ := bind_eq_ok_iff.mp checked
          obtain ⟨collected, isCollected, checked⟩ := bind_eq_ok_iff.mp checked
          obtain ⟨cutoff, isCutoff, checked⟩ := bind_eq_ok_iff.mp checked
          rw [reject_eq_ok_iff, not_not] at unique
          split at checked
          · exact Or.inl (Prod.mk.inj (Except.ok.inj checked)).2.symm
          · next some_ =>
              have same := (Prod.mk.inj (Except.ok.inj checked)).2
              exact Or.inr ⟨_, snapshots, history, references, normalized, collected, cutoff,
                isSnapshots, isHistory, isReferences, not_not.mp onlyMain, isNormalized, unique,
                isCollected, isCutoff, some_, same.symm⟩
  · exact Or.inl (Prod.mk.inj (Except.ok.inj checked)).2.symm

/-- Orphan files are checked with no action or with one inspection. -/
theorem checkOrphanFiles_cases
    {checks : List PlanCheck}
    {actions : List PlannedAction}
    (checked : checkOrphanFiles python isoformat policy source = .ok (checks, actions)) :
    actions = [] ∨ Exists fun reason => Exists fun parameters => Exists fun additionalSafety =>
      actions = [plannedAction python source .inspectOrphanFiles "scheduled_inventory" reason
        parameters additionalSafety] := by
  unfold checkOrphanFiles at checked
  split at checked
  · obtain ⟨collected, _, checked⟩ := bind_eq_ok_iff.mp checked
    obtain ⟨cutoff, _, checked⟩ := bind_eq_ok_iff.mp checked
    exact Or.inr ⟨_, _, _, (Prod.mk.inj (Except.ok.inj checked)).2.symm⟩
  · exact Or.inl (Prod.mk.inj (Except.ok.inj checked)).2.symm

/-- The actions of a plan are those of its four checks. -/
theorem planMaintenance_cases
    {document : Json}
    {plan : MaintenancePlan}
    (accepted : planMaintenance python isoformat validate policy document = .ok plan) :
    Exists fun report => Exists fun dataFilesActions => Exists fun manifestsActions =>
      Exists fun snapshotsCheck => Exists fun snapshotsActions => Exists fun orphanActions =>
        validateReport document = .ok (report, plan.source) ∧
        (dataFilesActions = [] ∨ Exists fun reason =>
          dataFilesActions = [plannedAction python plan.source .rewriteDataFiles "small_files"
            reason [("target_file_size_bytes", .int policy.targetFileSizeBytes)] []]) ∧
        (manifestsActions = [] ∨ Exists fun reason =>
          manifestsActions = [plannedAction python plan.source .rewriteManifests
            "dense_manifests" reason [] []]) ∧
        checkSnapshots python isoformat policy report plan.source =
          .ok (snapshotsCheck, snapshotsActions) ∧
        (orphanActions = [] ∨ Exists fun reason => Exists fun parameters =>
          Exists fun additionalSafety =>
            orphanActions = [plannedAction python plan.source .inspectOrphanFiles
              "scheduled_inventory" reason parameters additionalSafety]) ∧
        plan.actions = dataFilesActions ++ manifestsActions ++ snapshotsActions ++
          orphanActions := by
  unfold planMaintenance at accepted
  obtain ⟨⟨report, source⟩, isReport, accepted⟩ := bind_eq_ok_iff.mp accepted
  obtain ⟨files, _, accepted⟩ := bind_eq_ok_iff.mp accepted
  obtain ⟨manifests, _, accepted⟩ := bind_eq_ok_iff.mp accepted
  obtain ⟨fileCount, _, accepted⟩ := bind_eq_ok_iff.mp accepted
  obtain ⟨deleteFileCount, _, accepted⟩ := bind_eq_ok_iff.mp accepted
  obtain ⟨_, _, accepted⟩ := bind_eq_ok_iff.mp accepted
  obtain ⟨⟨_, dataFilesActions⟩, isDataFiles, accepted⟩ := bind_eq_ok_iff.mp accepted
  obtain ⟨⟨_, manifestsActions⟩, isManifests, accepted⟩ := bind_eq_ok_iff.mp accepted
  obtain ⟨⟨snapshotsCheck, snapshotsActions⟩, isSnapshots, accepted⟩ :=
    bind_eq_ok_iff.mp accepted
  obtain ⟨⟨_, orphanActions⟩, isOrphans, accepted⟩ := bind_eq_ok_iff.mp accepted
  obtain ⟨_, _, accepted⟩ := bind_eq_ok_iff.mp accepted
  injection accepted with isPlan
  subst isPlan
  exact ⟨report, dataFilesActions, manifestsActions, snapshotsCheck, snapshotsActions,
    orphanActions, isReport, checkDataFiles_cases isDataFiles, checkManifests_cases isManifests,
    isSnapshots, checkOrphanFiles_cases isOrphans, rfl⟩

/-- Every action of a plan was planned from the report. -/
theorem planMaintenance_planned
    {document : Json}
    {plan : MaintenancePlan}
    (accepted : planMaintenance python isoformat validate policy document = .ok plan) :
    Exists fun report => validateReport document = .ok (report, plan.source) ∧
      forall action, action ∈ plan.actions ->
        Planned python policy report plan.source action := by
  obtain ⟨report, dataFilesActions, manifestsActions, _, snapshotsActions, orphanActions,
    isReport, dataFiles, manifests, checked, orphans, isActions⟩ :=
    planMaintenance_cases accepted
  refine ⟨report, isReport, fun action member => ?_⟩
  simp only [isActions, List.mem_append] at member
  rcases member with ((inDataFiles | inManifests) | inSnapshots) | inOrphans
  · rcases dataFiles with rfl | ⟨reason, rfl⟩
    · exact absurd inDataFiles List.not_mem_nil
    · rw [List.mem_singleton.mp inDataFiles]
      exact Planned.rewriteDataFiles reason
  · rcases manifests with rfl | ⟨reason, rfl⟩
    · exact absurd inManifests List.not_mem_nil
    · rw [List.mem_singleton.mp inManifests]
      exact Planned.rewriteManifests reason
  · rcases checkSnapshots_cases checked with rfl | ⟨reason, snapshots, history, _, normalized,
      collected, cutoff, isSnapshots, isHistory, _, _, isNormalized, unique, isCollected,
      isCutoff, some_, rfl⟩
    · exact absurd inSnapshots List.not_mem_nil
    · rw [List.mem_singleton.mp inSnapshots]
      exact Planned.expireSnapshots reason snapshots history normalized collected cutoff
        isSnapshots isHistory isNormalized unique isCollected isCutoff some_
  · rcases orphans with rfl | ⟨reason, parameters, additionalSafety, rfl⟩
    · exact absurd inOrphans List.not_mem_nil
    · rw [List.mem_singleton.mp inOrphans]
      exact Planned.inspectOrphanFiles reason parameters additionalSafety

theorem identifier_ne_empty (kind : String) (value : Json) :
    identifier python kind value ≠ "" := by
  intro empty
  have texts := congrArg String.toList empty
  simp [identifier, String.toList_append] at texts

theorem planMaintenance_planId
    {document : Json}
    {plan : MaintenancePlan}
    (accepted : planMaintenance python isoformat validate policy document = .ok plan) :
    plan.planId ≠ "" := by
  unfold planMaintenance at accepted
  simp only [bind_eq_ok_iff] at accepted
  obtain ⟨_, _, _, _, _, _, _, _, _, _, _, _, _, _, _, _, _, _, _, _, _, _, returned⟩ := accepted
  rw [← Except.ok.inj returned]
  exact identifier_ne_empty _ _

/-! ## The executor on the plan -/

/-- What the executor selects for an action of the plan. -/
def selectedOf (plan : MaintenancePlan) (action : PlannedAction) : Selected where
  planId := plan.planId
  table := plan.source.table
  action := ("action_id", .string action.actionId) :: action.body
  actionType := action.actionType
  safety := action.safetyBounds
  expectedSnapshot := plan.source.currentSnapshotId

/-- What an accepted report has. -/
structure ReportRead (document : Json) (report : Entries) (source : Source) : Prop where
  shape : document = .object report
  table : source.table ≠ ""
  current : source.currentSnapshotId ≠ ""
  snapshots : Exists fun snapshots => objectField report "snapshots" = .ok snapshots ∧
    snapshots.lookup "current_id" = some (.string source.currentSnapshotId)

theorem validateReport_eq_ok
    {document : Json}
    (validated : validateReport document = .ok (report, source)) :
    ReportRead document report source := by
  unfold validateReport at validated
  split at validated
  · next entries =>
      obtain ⟨_, _, validated⟩ := bind_eq_ok_iff.mp validated
      obtain ⟨_, _, validated⟩ := bind_eq_ok_iff.mp validated
      obtain ⟨table, isTable, validated⟩ := bind_eq_ok_iff.mp validated
      obtain ⟨collectedAt, _, validated⟩ := bind_eq_ok_iff.mp validated
      obtain ⟨snapshots, isSnapshots, validated⟩ := bind_eq_ok_iff.mp validated
      split at validated
      · contradiction
      · next current isCurrent =>
          obtain ⟨_, _, validated⟩ := bind_eq_ok_iff.mp validated
          obtain ⟨_, _, validated⟩ := bind_eq_ok_iff.mp validated
          obtain ⟨rfl, rfl⟩ := Prod.mk.inj (Except.ok.inj validated)
          obtain ⟨present, nonempty⟩ := stringField_eq_ok_iff.mp isCurrent
          exact ⟨rfl, (stringField_eq_ok_iff.mp isTable).2, nonempty, snapshots, isSnapshots,
            present⟩
  · contradiction

theorem hasActionId_json (actionId : String) (action : PlannedAction) :
    hasActionId actionId action.json =
      if action.actionId = actionId then
        some (("action_id", .string action.actionId) :: action.body)
      else none := rfl

theorem filterMap_json (actionId : String) (actions : List PlannedAction) :
    (actions.map PlannedAction.json).filterMap (hasActionId actionId) =
      (Table.rowsOf PlannedAction.actionId actionId actions).map
        fun action => ("action_id", .string action.actionId) :: action.body := by
  rw [List.filterMap_map]
  induction actions with
  | nil => rfl
  | cons first rest inductionHypothesis =>
      rw [List.filterMap_cons, inductionHypothesis, Function.comp_apply, hasActionId_json]
      by_cases same : first.actionId = actionId
      · rw [if_pos same, Table.rowsOf, Table.rowsOf, List.filter_cons_of_pos (by simpa using same)]
        rfl
      · rw [if_neg same, Table.rowsOf, Table.rowsOf, List.filter_cons_of_neg (by simpa using same)]

/-- The action of an id is the only one that the executor finds. -/
theorem filterMap_hasActionId
    {actions : List PlannedAction}
    (distinct : (actions.map PlannedAction.actionId).Nodup)
    {action : PlannedAction}
    (member : action ∈ actions) :
    (actions.map PlannedAction.json).filterMap (hasActionId action.actionId) =
      [("action_id", .string action.actionId) :: action.body] := by
  rw [filterMap_json, Table.rowsOf_eq_singleton distinct member]
  rfl

theorem actionTypeOf_text (actionType : ActionType) :
    actionTypeOf actionType.text = some actionType := by
  cases actionType <;> decide

/-- The safety bounds that all planned actions share. -/
theorem Planned.shared
    {action : PlannedAction}
    (planned : Planned python policy report source action) :
    action.safetyBounds.lookup "dry_run_required" = some (.bool true) ∧
      action.safetyBounds.lookup "expected_snapshot_id" =
        some (.string source.currentSnapshotId) ∧
      action.safetyBounds.lookup "max_concurrent_jobs" = some (.int 1) := by
  cases planned <;> exact ⟨rfl, rfl, rfl⟩

/-- The executor selects a planned action. -/
theorem selectRun_planned
    {plan : MaintenancePlan}
    (planId : plan.planId ≠ "")
    (table : plan.source.table ≠ "")
    (current : plan.source.currentSnapshotId ≠ "")
    (distinct : (plan.actions.map PlannedAction.actionId).Nodup)
    {action : PlannedAction}
    (member : action ∈ plan.actions)
    (planned : Planned python policy report plan.source action) :
    selectRun plan.asDict action.actionId = .ok (selectedOf plan action) := by
  have found := filterMap_hasActionId distinct member
  obtain ⟨dryRun, expected, jobs⟩ := planned.shared
  let entries : Entries := ("plan_id", .string plan.planId) ::
    planSeed plan.status plan.source plan.policy plan.checks plan.actions
  have schema : entries.lookup "schema_version" = some (.string "1.0") := rfl
  have isPlanId : stringField entries "plan_id" = .ok plan.planId :=
    stringField_eq_ok_iff.mpr ⟨rfl, planId⟩
  have isTable : stringField entries "table" = .ok plan.source.table :=
    stringField_eq_ok_iff.mpr ⟨rfl, table⟩
  have isActions : entries.lookup "actions" =
      some (.array (plan.actions.map PlannedAction.json)) := rfl
  have selection : selectAction plan.asDict action.actionId =
      .ok (plan.planId, plan.source.table,
        ("action_id", .string action.actionId) :: action.body, action.actionType) := by
    have isType : (("action_id", Json.string action.actionId) :: action.body).lookup
        "action_type" = some (.string action.actionType.text) := rfl
    change selectAction (.object entries) action.actionId = _
    simp only [selectAction, schema, isPlanId, isTable, isActions, found, isType,
      actionTypeOf_text, ok_bind]
    rfl
  have isSafety : objectField (("action_id", Json.string action.actionId) :: action.body)
      "safety_bounds" = .ok action.safetyBounds := objectField_eq_ok_iff.mpr rfl
  have isExpected : stringField action.safetyBounds "expected_snapshot_id" =
      .ok plan.source.currentSnapshotId := stringField_eq_ok_iff.mpr ⟨expected, current⟩
  have isJobs : integerField action.safetyBounds "max_concurrent_jobs" = .ok 1 :=
    integerField_eq_ok_iff.mpr ⟨jobs, by decide⟩
  simp only [selectRun, selection, ok_bind, isSafety, isExpected, dryRun, isJobs]
  rfl

/-! ## The table of the report -/

/-- The engine shows a table in the given state. -/
structure Shows
    (python : Python)
    (live : LiveTable)
    (parts : TableParts)
    (state : TableState) : Prop where
  history : Exists fun row => live (.history parts) = .ok [row] ∧
    snapshotIdOf python row = .ok state.snapshotId
  snapshots : Exists fun rows => live (.snapshots parts) = .ok rows ∧
    rows.mapM (snapshotIdOf python) = .ok state.snapshotIds
  files : Exists fun row => live (.dataFiles parts) = .ok [row] ∧
    integerField row "data_file_count" = .ok state.dataFileCount ∧
    integerField row "record_count" = .ok state.recordCount
  manifests : Exists fun row => live (.manifests parts) = .ok [row] ∧
    integerField row "manifest_count" = .ok state.manifestCount
  count : state.snapshotCount = state.snapshotIds.length

/-- The state of the table is the one in the report. -/
structure EqualsReport (python : Python) (report : Entries) (state : TableState) : Prop where
  snapshots : Exists fun snapshots => objectField report "snapshots" = .ok snapshots ∧
    snapshots.lookup "current_id" = some (.string state.snapshotId) ∧
    forall history normalized, snapshots.lookup "history" = some (.array history) ->
      history.mapM (snapshotEntry python) = .ok normalized ->
        forall id, id ∈ state.snapshotIds ↔ id ∈ normalized.map SnapshotEntry.snapshotId
  files : Exists fun files => Exists fun count => Exists fun deletes =>
    objectField report "files" = .ok files ∧ integerField files "count" = .ok count ∧
      integerField files "delete_file_count" = .ok deletes ∧
      state.dataFileCount = count - deletes
  manifests : Exists fun manifests => objectField report "manifests" = .ok manifests ∧
    integerField manifests "count" = .ok state.manifestCount

theorem liveState_of_shows
    {live : LiveTable}
    {table : String}
    {parts : TableParts}
    (isParts : tableParts table = .ok parts)
    {state : TableState}
    (shows_ : Shows python live parts state)
    {found : TableState} :
    liveState python live table = .ok found ↔
      state.snapshotId ∈ state.snapshotIds ∧ found = state := by
  obtain ⟨⟨historyRow, isHistory, current⟩, ⟨rows, isRows, ids⟩,
    ⟨fileRow, isFile, dataFiles, records⟩, ⟨manifestRow, isManifest, manifests⟩, count⟩ := shows_
  unfold liveState
  simp only [isParts, isHistory, isRows, isFile, isManifest, ok_bind]
  cases rows with
  | nil =>
      have none : state.snapshotIds = [] := (Except.ok.inj ids).symm
      simp [tableStateOf, none]
  | cons row rest =>
      simp only [tableStateOf, ids, current, dataFiles, records, manifests, ok_bind,
        bind_eq_ok_iff, reject_eq_ok_iff, not_not]
      constructor
      · rintro ⟨_, present, returned⟩
        refine ⟨present, ?_⟩
        rw [← Except.ok.inj returned, ← count]
      · rintro ⟨present, rfl⟩
        refine ⟨(), present, ?_⟩
        rw [← count]
        rfl

/-- The name of a table is three parts without dots, none of them empty. -/
structure ThreeParts (table : String) (parts : TableParts) : Prop where
  split : splitText '.' table = [parts.catalog, parts.namespaceName, parts.name]
  nonempty : parts.catalog ≠ "" ∧ parts.namespaceName ≠ "" ∧ parts.name ≠ ""

/-- No part of the name has the character with the code zero. -/
def TableParts.WithoutNul (parts : TableParts) : Prop :=
  '\x00' ∉ parts.catalog.toList ∧ '\x00' ∉ parts.namespaceName.toList ∧
    '\x00' ∉ parts.name.toList

instance (parts : TableParts) : Decidable parts.WithoutNul :=
  inferInstanceAs (Decidable (_ ∧ _))

theorem tableParts_eq_ok_iff
    {table : String}
    {parts found : TableParts}
    (three : ThreeParts table parts) :
    tableParts table = .ok found ↔ parts.WithoutNul ∧ found = parts := by
  obtain ⟨split, catalog, namespaceName, name⟩ := three
  simp only [tableParts, split, badPart, catalog, namespaceName, name, decide_false,
    Bool.false_or, TableParts.WithoutNul]
  by_cases first : '\x00' ∈ parts.catalog.toList
  · simp [first]
  · by_cases second : '\x00' ∈ parts.namespaceName.toList
    · simp [first, second]
    · by_cases third : '\x00' ∈ parts.name.toList
      · simp [first, second, third]
      · simp only [first, second, third, decide_false, Bool.or_self, Bool.false_eq_true,
          if_false, Except.ok.injEq, not_false_eq_true, and_self, true_and]
        exact eq_comm

/-! ## When a planned action is executed -/

/-- The current snapshot is one of the oldest of the history, as many as an expiry may
have, is older than the cutoff, and is not one of the newest that are kept. -/
structure CurrentExpires
    (python : Python)
    (policy : MaintenancePolicy floats)
    (report : Entries)
    (source : Source) : Prop where
  expires : Exists fun snapshots => Exists fun history => Exists fun normalized =>
    Exists fun collected => Exists fun cutoff => Exists fun entry =>
      objectField report "snapshots" = .ok snapshots ∧
        snapshots.lookup "history" = some (.array history) ∧
        history.mapM (snapshotEntry python) = .ok normalized ∧
        timestamp python source.collectedAt = .ok collected ∧
        hoursBefore collected policy.snapshotRetentionHours = .ok cutoff ∧
        entry ∈ expirable policy.minSnapshotsToKeep policy.maxSnapshotsToExpire normalized ∧
        entry.snapshotId = source.currentSnapshotId ∧ entry.committedAt < cutoff

/-- The condition on the report and on its table. -/
structure ActionRuns
    (python : Python)
    (policy : MaintenancePolicy floats)
    (report : Entries)
    (source : Source)
    (parts : TableParts)
    (state : TableState)
    (actionType : ActionType) : Prop where
  name : parts.WithoutNul
  current : state.snapshotId ∈ state.snapshotIds
  manifests : actionType = .rewriteManifests -> state.manifestCount ≤ 1000
  expiry : actionType = .expireSnapshots -> ¬CurrentExpires python policy report source

theorem snapshotEntry_isDigits
    {value : Json}
    {entry : SnapshotEntry}
    (read : snapshotEntry python value = .ok entry) :
    python.isDigits entry.snapshotId = true := by
  unfold snapshotEntry at read
  split at read <;> try contradiction
  split at read <;> try contradiction
  split at read <;> try contradiction
  next digits =>
    split at read <;> try contradiction
    obtain ⟨time, _, returned⟩ := bind_eq_ok_iff.mp read
    rw [← Except.ok.inj returned]
    exact digits

/-- The current snapshot expires exactly when it is selected. -/
theorem currentExpires_iff
    {snapshots : Entries}
    {history : List Json}
    {normalized : List SnapshotEntry}
    {collected cutoff : Int}
    (isSnapshots : objectField report "snapshots" = .ok snapshots)
    (isHistory : snapshots.lookup "history" = some (.array history))
    (isNormalized : history.mapM (snapshotEntry python) = .ok normalized)
    (unique : (normalized.map SnapshotEntry.snapshotId).Nodup)
    (isCollected : timestamp python source.collectedAt = .ok collected)
    (isCutoff : hoursBefore collected policy.snapshotRetentionHours = .ok cutoff) :
    CurrentExpires python policy report source ↔
      source.currentSnapshotId ∈
        (expiryCandidates policy.minSnapshotsToKeep cutoff normalized).take
          policy.maxSnapshotsToExpire := by
  rw [take_expiryCandidates unique]
  constructor
  · rintro ⟨_, _, _, _, _, entry, otherSnapshots, otherHistory, otherNormalized,
      otherCollected, otherCutoff, member, isCurrent, old⟩
    obtain rfl := Except.ok.inj (otherSnapshots.symm.trans isSnapshots)
    obtain rfl := Json.array.inj (Option.some.inj (otherHistory.symm.trans isHistory))
    obtain rfl := Except.ok.inj (otherNormalized.symm.trans isNormalized)
    obtain rfl := Except.ok.inj (otherCollected.symm.trans isCollected)
    obtain rfl := Except.ok.inj (otherCutoff.symm.trans isCutoff)
    exact List.mem_map.mpr ⟨entry, List.mem_filter.mpr ⟨member, by simpa using old⟩, isCurrent⟩
  · intro selected
    obtain ⟨entry, member, isCurrent⟩ := List.mem_map.mp selected
    obtain ⟨isExpirable, old⟩ := List.mem_filter.mp member
    exact ⟨snapshots, history, normalized, collected, cutoff, entry, isSnapshots, isHistory,
      isNormalized, isCollected, isCutoff, isExpirable, isCurrent, by simpa using old⟩

/-- The selected snapshots are in the history. -/
theorem selected_sublist
    {history : List SnapshotEntry}
    (unique : (history.map SnapshotEntry.snapshotId).Nodup)
    (minSnapshotsToKeep maxSnapshotsToExpire : Nat)
    (cutoff : Int) :
    ((expiryCandidates minSnapshotsToKeep cutoff history).take maxSnapshotsToExpire).Nodup ∧
      forall id, id ∈ (expiryCandidates minSnapshotsToKeep cutoff history).take
          maxSnapshotsToExpire -> id ∈ history.map SnapshotEntry.snapshotId := by
  have perm := (Table.orderedBy_perm SnapshotEntry.committedAt history).map
    SnapshotEntry.snapshotId
  have sublist : ((expiryCandidates minSnapshotsToKeep cutoff history).take
      maxSnapshotsToExpire).Sublist ((oldestFirst history).map SnapshotEntry.snapshotId) :=
    (List.take_sublist _ _).trans (List.filter_sublist.map _)
  exact ⟨(perm.nodup_iff.mpr unique).sublist sublist,
    fun id member => perm.mem_iff.mp (sublist.subset member)⟩

/-- The checks of a planned action, on the table of the report. -/
theorem executable_planned_iff
    {plan : MaintenancePlan}
    {action : PlannedAction}
    (planned : Planned python policy report plan.source action)
    (kind : action.actionType ≠ .inspectOrphanFiles)
    {parts : TableParts}
    (isParts : tableParts plan.source.table = .ok parts)
    {state : TableState}
    (same : EqualsReport python report state)
    (isCurrent : state.snapshotId = plan.source.currentSnapshotId) :
    Exists (Executable python (selectedOf plan action) state) ↔
      (action.actionType = .rewriteManifests -> state.manifestCount ≤ 1000) ∧
        (action.actionType = .expireSnapshots ->
          ¬CurrentExpires python policy report plan.source) := by
  cases planned with
  | rewriteDataFiles reason =>
      refine iff_of_true ⟨_, parts, isParts, policy.targetFileSizeBytes, 1000,
        ⟨rfl, ⟨_, objectField_eq_ok_iff.mpr rfl, ?_⟩, policy.target_positive⟩, rfl⟩ ⟨?_, ?_⟩
      · exact integerField_eq_ok_iff.mpr ⟨rfl, le_of_lt policy.target_positive⟩
      · exact fun wrong => ActionType.noConfusion wrong
      · exact fun wrong => ActionType.noConfusion wrong
  | rewriteManifests reason =>
      have bound : positiveBound (selectedOf plan (plannedAction python plan.source
          .rewriteManifests "dense_manifests" reason [] [])).safety
          "max_manifests_to_rewrite" = .ok 1000 := rfl
      constructor
      · rintro ⟨call, _, _, maxManifests, isBound, within, _⟩
        have isMax : (1000 : Int) = maxManifests := Except.ok.inj (bound.symm.trans isBound)
        exact ⟨fun _ => isMax ▸ within, fun wrong => ActionType.noConfusion wrong⟩
      · rintro ⟨within, _⟩
        exact ⟨_, parts, isParts, 1000, bound, within rfl, rfl⟩
  | expireSnapshots reason snapshots history normalized collected cutoff isSnapshots isHistory
      isNormalized unique isCollected isCutoff some_ =>
      rw [currentExpires_iff isSnapshots isHistory isNormalized unique isCollected isCutoff,
        ← isCurrent]
      obtain ⟨reported, isReported, _, sameHistory⟩ := same.snapshots
      obtain rfl := Except.ok.inj (isReported.symm.trans isSnapshots)
      have live := sameHistory history normalized isHistory isNormalized
      obtain ⟨selectedUnique, selectedIn⟩ := selected_sublist unique policy.minSnapshotsToKeep
        policy.maxSnapshotsToExpire cutoff
      have digits : forall id, id ∈ normalized.map SnapshotEntry.snapshotId ->
          python.isDigits id = true := by
        intro id member
        obtain ⟨entry, isEntry, rfl⟩ := List.mem_map.mp member
        exact forall_mem_of_mapM_eq_ok (fun _ _ => snapshotEntry_isDigits) isNormalized entry
          isEntry
      have nonempty : (expiryCandidates policy.minSnapshotsToKeep cutoff normalized).take
          policy.maxSnapshotsToExpire ≠ [] := by
        rw [ne_eq, List.take_eq_nil_iff, not_or]
        exact ⟨Nat.ne_of_gt policy.expires_some, some_⟩
      have bounded := List.length_take_le policy.maxSnapshotsToExpire
        (expiryCandidates policy.minSnapshotsToKeep cutoff normalized)
      generalize (expiryCandidates policy.minSnapshotsToKeep cutoff normalized).take
        policy.maxSnapshotsToExpire = selected at *
      have isIds : stringArrayField python [("snapshot_ids", idArray selected)]
          "snapshot_ids" = .ok selected :=
        stringArrayField_eq_ok_iff.mpr ⟨rfl, fun id member => digits id (selectedIn id member)⟩
      constructor
      · rintro ⟨call, _, _, expiry, ⟨⟨parameters, isParameters, isExpiryIds⟩, _, _⟩, allowed, _⟩
        refine ⟨fun wrong => ActionType.noConfusion wrong, fun _ => ?_⟩
        have sameParameters : parameters = [("snapshot_ids", idArray selected)] :=
          (Except.ok.inj isParameters).symm
        rw [sameParameters, isIds] at isExpiryIds
        rw [Except.ok.inj isExpiryIds]
        exact allowed.keepsCurrent
      · rintro ⟨_, keeps⟩
        refine ⟨_, parts, isParts, ⟨selected, normalized.map SnapshotEntry.snapshotId,
          policy.maxSnapshotsToExpire⟩, ⟨⟨_, objectField_eq_ok_iff.mpr rfl, isIds⟩, ?_, ?_⟩,
          ⟨nonempty, ?_, selectedUnique, live, keeps rfl, fun id member =>
            (live id).mpr (selectedIn id member)⟩, rfl⟩
        · exact stringArrayField_eq_ok_iff.mpr ⟨rfl, digits⟩
        · exact positiveBound_eq_ok_iff.mpr ⟨rfl, Int.natCast_pos.mpr policy.expires_some⟩
        · exact Int.ofNat_le.mpr bounded
  | inspectOrphanFiles reason parameters additionalSafety => exact absurd rfl kind

/-- A planned action, run with apply and the matching approvals on the table of the report,
reaches its call exactly under the condition. -/
theorem planned_action_runs_iff
    {document : Json}
    {plan : MaintenancePlan}
    (accepted : planMaintenance python isoformat validate policy document = .ok plan)
    {parts : TableParts}
    (three : ThreeParts plan.source.table parts)
    (distinct : (plan.actions.map PlannedAction.actionId).Nodup)
    {action : PlannedAction}
    (member : action ∈ plan.actions)
    (kind : action.actionType ≠ .inspectOrphanFiles)
    {live : LiveTable}
    {state : TableState}
    (shows_ : Shows python live parts state)
    (same : EqualsReport python report state)
    (isReport : document = .object report)
    {options : RunOptions}
    (approvals : Approvals (selectedOf plan action) options) :
    Reaches python plan.asDict action.actionId options live ↔
      ActionRuns python policy report plan.source parts state action.actionType := by
  obtain ⟨entries, validated, allPlanned⟩ := planMaintenance_planned accepted
  have read := validateReport_eq_ok validated
  obtain rfl : entries = report := Json.object.inj (read.shape.symm.trans isReport)
  have planned := allPlanned action member
  have planId : plan.planId ≠ "" := planMaintenance_planId accepted
  have isCurrent : state.snapshotId = plan.source.currentSnapshotId := by
    obtain ⟨snapshots, isSnapshots, current, _⟩ := same.snapshots
    obtain ⟨reported, isReported, expected⟩ := read.snapshots
    obtain rfl := Except.ok.inj (isReported.symm.trans isSnapshots)
    exact Json.string.inj (Option.some.inj (current.symm.trans expected))
  rw [reaches_iff (selectRun_planned planId read.table read.current distinct member planned)
    kind approvals]
  constructor
  · rintro ⟨found, isFound, _, executable⟩
    have isParts : tableParts plan.source.table = .ok parts := by
      obtain ⟨call, other, isOther, _⟩ := executable
      rw [((tableParts_eq_ok_iff three).mp isOther).2] at isOther
      exact isOther
    obtain ⟨present, rfl⟩ := (liveState_of_shows isParts shows_).mp isFound
    obtain ⟨manifests, expiry⟩ :=
      (executable_planned_iff planned kind isParts same isCurrent).mp executable
    exact ⟨((tableParts_eq_ok_iff three).mp isParts).1, present, manifests, expiry⟩
  · rintro ⟨name, present, manifests, expiry⟩
    have isParts : tableParts plan.source.table = .ok parts :=
      (tableParts_eq_ok_iff three).mpr ⟨name, rfl⟩
    exact ⟨state, (liveState_of_shows isParts shows_).mpr ⟨present, rfl⟩, isCurrent,
      (executable_planned_iff planned kind isParts same isCurrent).mpr ⟨manifests, expiry⟩⟩

/-! A table that was rolled back to its oldest snapshot. -/

/-- Ratios in ten-thousandths. -/
def ratioFloats : Floats Int where
  scaled target ratio := .ok (target * ratio / 10000)
  quotient left right := .ok (left * 10000 / right)
  atLeast left right := right ≤ left
  json ratio := .float (if ratio = 5000 then "0.5" else "2.0")
  rounded _ := .float "2.0"
  format _ := "2.0000"
  positive ratio := 0 < ratio
  atMostOne ratio := ratio ≤ 10000

/-- The default policy. -/
def defaultPolicy : MaintenancePolicy ratioFloats where
  targetFileSizeBytes := 134217728
  smallFileRatio := 5000
  minDataFiles := 4
  minManifestCount := 8
  maxManifestsPerDataFile := 20000
  snapshotRetentionHours := 168
  minSnapshotsToKeep := 3
  maxSnapshotsToExpire := 50
  orphanInspectionEnabled := false
  orphanRetentionHours := 168
  maxOrphanFiles := 1000
  target_positive := by decide
  ratio_positive := by decide
  ratio_atMostOne := by decide
  dataFiles_positive := by decide
  manifests_positive := by decide
  density_positive := by decide
  retention_nonneg := by decide
  keeps_two := by decide
  expires_some := by decide
  orphanRetention_bound := by decide
  orphanFiles_positive := by decide

/-- The days of the report. -/
def reportDays : List (String × Int) :=
  [("2026-06-01T00:00:00+00:00", 1780272000000000),
    ("2026-06-02T00:00:00+00:00", 1780358400000000),
    ("2026-06-03T00:00:00+00:00", 1780444800000000),
    ("2026-06-04T00:00:00+00:00", 1780531200000000),
    ("2026-06-05T00:00:00+00:00", 1780617600000000),
    ("2026-07-13T00:00:00+00:00", 1783900800000000)]

/-- The documents of the plan are told apart by the type of the action. -/
def reportDumps : Json -> String
  | .object (("action_type", .string actionType) :: _) => actionType
  | _ => "plan"

def reportPython : Python where
  isDigit := Char.isDigit
  str
    | .int number => toString number
    | .string text => text
    | _ => ""
  str_string := fun _ => rfl
  fromisoformat text := (reportDays.find? fun day => day.1 = text).map fun day =>
    { wall := day.2, offset := some 0 }
  dumps := reportDumps
  sha256 text :=
    if text = "rewrite_manifests" then
      "b473a5e720111adf0857eb8577e1f2f2366f5903a0afd9f79a112c794dc3a89e"
    else if text = "expire_snapshots" then
      "1ffc3c346a662358fe4369e40603872bd2b4b7b4975acf5bcc84798dbc6d9bd2"
    else "41f4e7fe40edc8d1147d05af8c16ae570f06ba1aea1670916949c89ef97df093"

def reportEntry (id : String) (day : String × Int) : Json :=
  .object [("snapshot_id", .string id), ("committed_at", .string day.1)]

def rolledBackReport : Entries :=
  [("schema_version", .string "1.0"), ("status", .string "ready"),
    ("table", .string "lakehouse.silver.weather_hourly"),
    ("collected_at", .string "2026-07-13T00:00:00+00:00"),
    ("snapshots", .object [("current_id", .string "101"),
      ("history", .array (List.zipWith reportEntry ["101", "102", "103", "104", "105"]
        reportDays))]),
    ("references", .array [.object [("name", .string "main")]]),
    ("files", .object [("count", .int 4), ("delete_file_count", .int 0),
      ("total_size_bytes", .int 800000000)]),
    ("manifests", .object [("count", .int 8)])]

/-- The times of the plan: its cutoff. -/
def reportIsoformat (_ : Int) : String :=
  "2026-07-06T00:00:00+00:00"

def rolledBackPlan : MaintenancePlan :=
  (planMaintenance reportPython reportIsoformat (fun _ => .ok ()) defaultPolicy
    (.object rolledBackReport)).toOption.get rfl

theorem rolledBackPlan_accepted :
    planMaintenance reportPython reportIsoformat (fun _ => .ok ()) defaultPolicy
      (.object rolledBackReport) = .ok rolledBackPlan := rfl

def rolledBackParts : TableParts where
  catalog := "lakehouse"
  namespaceName := "silver"
  name := "weather_hourly"

def rolledBackState : TableState where
  snapshotId := "101"
  snapshotCount := 5
  snapshotIds := ["105", "104", "103", "102", "101"]
  dataFileCount := 4
  recordCount := 40
  manifestCount := 8

/-- The engine over the table that was rolled back. -/
def rolledBackTable : LiveTable
  | .history _ => .ok [[("snapshot_id", .int 101)]]
  | .snapshots _ =>
      .ok ([105, 104, 103, 102, 101].map fun id => [("snapshot_id", Json.int id)])
  | .dataFiles _ => .ok [[("data_file_count", .int 4), ("record_count", .int 40)]]
  | .manifests _ => .ok [[("manifest_count", .int 8)]]
  | _ => .error "unsupported"

def rolledBackApproval : RunOptions where
  apply := true
  approvedPlanId := some rolledBackPlan.planId
  approvedSnapshotId := some "101"
  approvedCandidateSetId := none
  candidateReport := none

theorem rolledBackTable_shows :
    Shows reportPython rolledBackTable rolledBackParts rolledBackState :=
  ⟨⟨_, rfl, rfl⟩, ⟨_, rfl, rfl⟩, ⟨_, rfl, rfl, rfl⟩, ⟨_, rfl, rfl⟩, rfl⟩

theorem rolledBackTable_equalsReport :
    EqualsReport reportPython rolledBackReport rolledBackState where
  snapshots := by
    refine ⟨_, rfl, rfl, fun history normalized isHistory isNormalized id => ?_⟩
    obtain rfl := Json.array.inj (Option.some.inj isHistory)
    obtain rfl := Except.ok.inj isNormalized
    exact (List.reverse_perm _).mem_iff.symm
  files := ⟨_, _, _, rfl, rfl, rfl, rfl⟩
  manifests := ⟨_, rfl, rfl⟩

theorem rolledBackParts_three : ThreeParts rolledBackPlan.source.table rolledBackParts :=
  ⟨by decide +kernel, by decide⟩

theorem rolled_back_manifests_run :
    Exists fun action => action ∈ rolledBackPlan.actions ∧
      action.actionType = .rewriteManifests ∧
      Reaches reportPython rolledBackPlan.asDict action.actionId rolledBackApproval
        rolledBackTable :=
  ⟨_, List.mem_cons_self, rfl,
    (planned_action_runs_iff rolledBackPlan_accepted rolledBackParts_three (by decide +kernel) List.mem_cons_self (by decide)
      rolledBackTable_shows rolledBackTable_equalsReport rfl ⟨rfl, rfl, rfl⟩).mpr
      ⟨by decide, by decide, fun _ => by decide, fun wrong => ActionType.noConfusion wrong⟩⟩

/-- The planner selects the current snapshot of the table, and the executor refuses it. -/
theorem rolled_back_expiry_refused :
    Exists fun action => action ∈ rolledBackPlan.actions ∧
      action.actionType = .expireSnapshots ∧
      Approvals (selectedOf rolledBackPlan action) rolledBackApproval ∧
      ¬Reaches reportPython rolledBackPlan.asDict action.actionId rolledBackApproval
        rolledBackTable :=
  ⟨_, List.mem_cons_of_mem _ List.mem_cons_self, rfl, ⟨rfl, rfl, rfl⟩, by decide +kernel⟩

end Iceberg
end LakehouseOps
