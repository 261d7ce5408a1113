import LakehouseOps.Iceberg.Executor
import LakehouseOps.Library.Table

/-!
# The maintenance planner

The planner reads a metadata report and proposes actions with their safety bounds. The
arithmetic of its two ratios and the validation against the report schema are parameters.
-/

namespace LakehouseOps
namespace Iceberg

open Library Library.Fallible

/-- What the planner computes with floats. -/
structure Floats (Number : Type) where
  /-- `int(target * ratio)` -/
  scaled : Int -> Number -> Except String Int
  /-- `left / right` -/
  quotient : Int -> Int -> Except String Number
  atLeast : Number -> Number -> Bool
  json : Number -> Json
  /-- `round(value, 4)` -/
  rounded : Number -> Json
  /-- `f"{value:.4f}"` -/
  format : Number -> String
  /-- `0 < value` -/
  positive : Number -> Bool
  /-- `value <= 1` -/
  atMostOne : Number -> Bool

/-! ## Policies -/

/-- `MaintenancePolicy`, with what `__post_init__` checks. -/
structure MaintenancePolicy {Number : Type} (floats : Floats Number) where
  targetFileSizeBytes : Int
  smallFileRatio : Number
  minDataFiles : Int
  minManifestCount : Int
  maxManifestsPerDataFile : Number
  snapshotRetentionHours : Int
  minSnapshotsToKeep : Nat
  maxSnapshotsToExpire : Nat
  orphanInspectionEnabled : Bool
  orphanRetentionHours : Int
  maxOrphanFiles : Int
  target_positive : 0 < targetFileSizeBytes
  ratio_positive : floats.positive smallFileRatio = true
  ratio_atMostOne : floats.atMostOne smallFileRatio = true
  dataFiles_positive : 0 < minDataFiles
  manifests_positive : 0 < minManifestCount
  density_positive : floats.positive maxManifestsPerDataFile = true
  retention_nonneg : 0 ≤ snapshotRetentionHours
  keeps_two : 2 ≤ minSnapshotsToKeep
  expires_some : 0 < maxSnapshotsToExpire
  orphanRetention_bound : 72 ≤ orphanRetentionHours
  orphanFiles_positive : 0 < maxOrphanFiles

variable {Number : Type} {floats : Floats Number}

/-- `asdict(policy)` -/
def MaintenancePolicy.json (policy : MaintenancePolicy floats) : Json :=
  .object
    [("target_file_size_bytes", .int policy.targetFileSizeBytes),
      ("small_file_ratio", floats.json policy.smallFileRatio),
      ("min_data_files", .int policy.minDataFiles),
      ("min_manifest_count", .int policy.minManifestCount),
      ("max_manifests_per_data_file", floats.json policy.maxManifestsPerDataFile),
      ("snapshot_retention_hours", .int policy.snapshotRetentionHours),
      ("min_snapshots_to_keep", .int policy.minSnapshotsToKeep),
      ("max_snapshots_to_expire", .int policy.maxSnapshotsToExpire),
      ("orphan_inspection_enabled", .bool policy.orphanInspectionEnabled),
      ("orphan_retention_hours", .int policy.orphanRetentionHours),
      ("max_orphan_files", .int policy.maxOrphanFiles)]

/-! ## Reports and plans -/

/-- What the planner takes from a report. -/
structure Source where
  collectedAt : String
  currentSnapshotId : String
  table : String
  deriving DecidableEq

def Source.json (source : Source) : Json :=
  .object
    [("metadata_schema_version", .string "1.0"), ("collected_at", .string source.collectedAt),
      ("current_snapshot_id", .string source.currentSnapshotId), ("table", .string source.table)]

/-- A planned action. -/
structure PlannedAction where
  actionId : String
  actionType : ActionType
  reasonCode : String
  reason : String
  parameters : Entries
  safetyBounds : Entries

/-- The action without its id. -/
def PlannedAction.body (action : PlannedAction) : Entries :=
  [("action_type", .string action.actionType.text), ("reason_code", .string action.reasonCode),
    ("reason", .string action.reason), ("parameters", .object action.parameters),
    ("safety_bounds", .object action.safetyBounds)]

def PlannedAction.json (action : PlannedAction) : Json :=
  .object (("action_id", .string action.actionId) :: action.body)

inductive PlanStatus
  | healthy
  | maintenanceRecommended
  | reviewRequired
  deriving DecidableEq

def PlanStatus.text : PlanStatus -> String
  | .healthy => "healthy"
  | .maintenanceRecommended => "maintenance_recommended"
  | .reviewRequired => "review_required"

inductive CheckOutcome
  | healthy
  | recommend
  | deferred
  | inspect
  deriving DecidableEq

def CheckOutcome.text : CheckOutcome -> String
  | .healthy => "healthy"
  | .recommend => "recommend"
  | .deferred => "deferred"
  | .inspect => "inspect"

/-- `_check` -/
structure PlanCheck where
  rule : String
  outcome : CheckOutcome
  observed : Entries
  threshold : Entries
  reason : String

def PlanCheck.json (check : PlanCheck) : Json :=
  .object
    [("rule", .string check.rule), ("outcome", .string check.outcome.text),
      ("observed", .object check.observed), ("threshold", .object check.threshold),
      ("reason", .string check.reason)]

/-- `MaintenancePlan` -/
structure MaintenancePlan where
  planId : String
  status : PlanStatus
  source : Source
  policy : Json
  checks : List PlanCheck
  actions : List PlannedAction

/-- The plan without its id. -/
def planSeed
    (status : PlanStatus)
    (source : Source)
    (policy : Json)
    (checks : List PlanCheck)
    (actions : List PlannedAction) : Entries :=
  [("schema_version", .string "1.0"), ("status", .string status.text),
    ("table", .string source.table), ("source", source.json), ("policy", policy),
    ("checks", .array (checks.map PlanCheck.json)),
    ("actions", .array (actions.map PlannedAction.json))]

/-- `MaintenancePlan.as_dict` -/
def MaintenancePlan.asDict (plan : MaintenancePlan) : Json :=
  .object (("plan_id", .string plan.planId) ::
    planSeed plan.status plan.source plan.policy plan.checks plan.actions)

/-- `_identifier` -/
def identifier (python : Python) (kind : String) (value : Json) : String :=
  kind ++ "-" ++ String.ofList ((python.sha256 (python.dumps value)).toList.take 16)

/-- The bounds that every action of a type has. -/
def boundedResource : ActionType -> Entries
  | .rewriteDataFiles => [("max_files_to_rewrite", .int 1000)]
  | .rewriteManifests => [("max_manifests_to_rewrite", .int 1000)]
  | .expireSnapshots => []
  | .inspectOrphanFiles => []

/-- `_action` -/
def plannedAction
    (python : Python)
    (source : Source)
    (actionType : ActionType)
    (reasonCode reason : String)
    (parameters additionalSafety : Entries) : PlannedAction :=
  let safetyBounds :=
    [("dry_run_required", .bool true),
      ("expected_snapshot_id", .string source.currentSnapshotId),
      ("max_concurrent_jobs", .int 1)] ++ boundedResource actionType ++ additionalSafety
  let action : PlannedAction :=
    { actionId := "", actionType, reasonCode, reason, parameters, safetyBounds }
  { action with
    actionId := identifier python "action" (.object (action.body ++ [("source", source.json)])) }

/-- The two texts of `_validate_report` that the report must have. -/
def isVersion (report : Entries) (key text : String) : Bool :=
  match report.lookup key with
  | some (.string value) => value = text
  | _ => false

/-- `_validate_report` -/
def validateReport (report : Json) : Except String (Entries × Source) :=
  match report with
  | .object report => do
      reject (!isVersion report "schema_version" "1.0") "unsupported metadata schema_version"
      reject (!isVersion report "status" "ready") "metadata report status must be ready"
      let table <- stringField report "table"
      let collectedAt <- stringField report "collected_at"
      let snapshots <- objectField report "snapshots"
      match stringField snapshots "current_id" with
      | .error _ => .error "snapshots.current_id must be a non-empty string"
      | .ok currentSnapshotId =>
          let _ <- objectField report "files"
          let _ <- objectField report "manifests"
          return (report, { collectedAt, currentSnapshotId, table })
  | _ => .error "metadata report must be a JSON object"

/-! ## Times -/

/-- `_timestamp`, in UTC. -/
def timestamp (python : Python) (value : String) : Except String Int :=
  match python.fromisoformat (replaceText value " UTC" "+00:00") with
  | none => .error ("invalid timestamp: " ++ value)
  | some parsed =>
      if parsed.aware then
        match parsed.toUtc with
        | none => .error "date value out of range"
        | some utc => .ok utc
      else .error "timestamps must include a timezone"

/-- A time some hours earlier. -/
def hoursBefore (time hours : Int) : Except String Int := do
  let cutoff := time - hours * 3600000000
  reject (¬Datetime.Representable cutoff) "date value out of range"
  return cutoff

/-! ## Data files and manifests -/

/-- The average size of some data files. -/
def averageSize (totalSizeBytes dataFileCount : Int) : Int :=
  if dataFileCount = 0 then 0 else totalSizeBytes / dataFileCount

/-- `_check_data_files` -/
def checkDataFiles
    (python : Python)
    (policy : MaintenancePolicy floats)
    (source : Source)
    (files : Entries)
    (dataFileCount deleteFileCount : Int) : Except String (PlanCheck × List PlannedAction) := do
  let totalSizeBytes <- integerField files "total_size_bytes"
  let threshold <- floats.scaled policy.targetFileSizeBytes policy.smallFileRatio
  let averageSizeBytes := averageSize totalSizeBytes dataFileCount
  let observed : Entries :=
    [("data_file_count", .int dataFileCount), ("delete_file_count", .int deleteFileCount),
      ("average_size_bytes", .int averageSizeBytes)]
  let limits : Entries :=
    [("min_data_files", .int policy.minDataFiles), ("average_size_below_bytes", .int threshold)]
  let check (outcome : CheckOutcome) (reason : String) : PlanCheck :=
    { rule := "small_data_files", outcome, observed, threshold := limits, reason }
  if deleteFileCount ≠ 0 then
    return (check .deferred
      "File-size aggregates include delete files; inspect content-specific metrics.", [])
  else if policy.minDataFiles ≤ dataFileCount ∧ averageSizeBytes < threshold then
    let reason := toString dataFileCount ++ " data files average " ++ toString averageSizeBytes ++
      " bytes, below the " ++ toString threshold ++ "-byte policy threshold."
    return (check .recommend reason,
      [plannedAction python source .rewriteDataFiles "small_files" reason
        [("target_file_size_bytes", .int policy.targetFileSizeBytes)] []])
  else
    return (check .healthy
      "Data-file count or average size does not cross the compaction threshold.", [])

/-- `_check_manifests` -/
def checkManifests
    (python : Python)
    (policy : MaintenancePolicy floats)
    (source : Source)
    (manifests : Entries)
    (dataFileCount : Int) : Except String (PlanCheck × List PlannedAction) := do
  let manifestCount <- integerField manifests "count"
  let ratio <- floats.quotient manifestCount (max dataFileCount 1)
  let observed : Entries :=
    [("manifest_count", .int manifestCount), ("manifests_per_data_file", floats.rounded ratio)]
  let limits : Entries :=
    [("min_manifest_count", .int policy.minManifestCount),
      ("manifests_per_data_file_at_least", floats.json policy.maxManifestsPerDataFile)]
  let check (outcome : CheckOutcome) (reason : String) : PlanCheck :=
    { rule := "manifest_density", outcome, observed, threshold := limits, reason }
  if policy.minManifestCount ≤ manifestCount ∧
      floats.atLeast ratio policy.maxManifestsPerDataFile then
    let reason := toString manifestCount ++ " manifests for " ++ toString dataFileCount ++
      " data files gives a " ++ floats.format ratio ++ " manifest-to-file ratio."
    return (check .recommend reason,
      [plannedAction python source .rewriteManifests "dense_manifests" reason [] []])
  else
    return (check .healthy "Manifest count and density remain within policy bounds.", [])

/-! ## Snapshots -/

/-- `_snapshot_entry` -/
structure SnapshotEntry where
  snapshotId : String
  committedAt : Int
  deriving DecidableEq

def snapshotEntry (python : Python) : Json -> Except String SnapshotEntry
  | .object value =>
      match value.lookup "snapshot_id" with
      | some (.string snapshotId) =>
          if python.isDigits snapshotId then
            match value.lookup "committed_at" with
            | some (.string committedAt) => do
                return { snapshotId, committedAt := <- timestamp python committedAt }
            | _ => .error "snapshot committed_at must be a string"
          else .error "snapshot history IDs must be decimal strings"
      | _ => .error "snapshot history IDs must be decimal strings"
  | _ => .error "snapshot history entries must be objects"

/-- The name of a reference other than `main`. -/
def nonMainReference : Json -> Option (Option Json)
  | .object reference =>
      match reference.lookup "name" with
      | some (.string name) => if name = "main" then none else some (some (.string name))
      | other => some other
  | _ => none

/-- The history in the order of its commits. -/
def oldestFirst (history : List SnapshotEntry) : List SnapshotEntry :=
  Table.orderedBy SnapshotEntry.committedAt history

/-- The snapshots older than the cutoff that are not among the newest ones. -/
def expiryCandidates (minSnapshotsToKeep : Nat) (cutoff : Int) (history : List SnapshotEntry) :
    List String :=
  let normalized := oldestFirst history
  let newest := normalized.drop (normalized.length - minSnapshotsToKeep)
  let kept := newest.map SnapshotEntry.snapshotId
  (normalized.filter fun entry =>
    entry.committedAt < cutoff ∧ entry.snapshotId ∉ kept).map SnapshotEntry.snapshotId

/-- `_check_snapshots` -/
def checkSnapshots
    (python : Python)
    (isoformat : Int -> String)
    (policy : MaintenancePolicy floats)
    (report : Entries)
    (source : Source) : Except String (PlanCheck × List PlannedAction) := do
  let snapshots <- objectField report "snapshots"
  let limits : Entries :=
    [("retention_hours", .int policy.snapshotRetentionHours),
      ("min_snapshots_to_keep", .int policy.minSnapshotsToKeep),
      ("max_snapshots_to_expire", .int policy.maxSnapshotsToExpire)]
  let check (outcome : CheckOutcome) (observed : Entries) (reason : String) : PlanCheck :=
    { rule := "snapshot_retention", outcome, observed, threshold := limits, reason }
  match snapshots.lookup "history", report.lookup "references" with
  | some (.array history), some (.array references) =>
      let nonMainRefs := references.filterMap nonMainReference
      if nonMainRefs ≠ [] then
        let names := (nonMainRefs.map fun name => python.str (name.getD .null)).insertionSort
          (· ≤ ·)
        return (check .deferred [("non_main_references", .array (names.map Json.string))]
          "Snapshot expiration is deferred while non-main references exist.", [])
      else
        let normalized <- history.mapM (snapshotEntry python)
        let ids := normalized.map SnapshotEntry.snapshotId
        reject (¬ids.Nodup) "snapshot history contains duplicate IDs"
        let collected <- timestamp python source.collectedAt
        let cutoff <- hoursBefore collected policy.snapshotRetentionHours
        let candidates := expiryCandidates policy.minSnapshotsToKeep cutoff normalized
        let observed : Entries :=
          [("snapshot_count", .int normalized.length),
            ("eligible_snapshot_count", .int candidates.length),
            ("cutoff", .string (isoformat cutoff))]
        if candidates = [] then
          return (check .healthy observed
            "No snapshots are eligible after applying age and minimum-count retention.", [])
        else
          let selected := candidates.take policy.maxSnapshotsToExpire
          let reason := toString candidates.length ++ " snapshots are older than " ++
            isoformat cutoff ++ " after preserving the latest " ++
            toString policy.minSnapshotsToKeep ++ "."
          return (check .recommend observed reason,
            [plannedAction python source .expireSnapshots "retention_window" reason
              [("snapshot_ids", idArray selected)]
              [("max_snapshots_to_expire", .int policy.maxSnapshotsToExpire),
                ("expected_history_snapshot_ids", idArray ids)]])
  | _, _ =>
      return (check .deferred [("history_available", .bool false)]
        "Collect snapshot history and references before planning expiration.", [])

/-- `_check_orphan_files` -/
def checkOrphanFiles
    (python : Python)
    (isoformat : Int -> String)
    (policy : MaintenancePolicy floats)
    (source : Source) : Except String (List PlanCheck × List PlannedAction) := do
  if policy.orphanInspectionEnabled then
    let collected <- timestamp python source.collectedAt
    let cutoff <- hoursBefore collected policy.orphanRetentionHours
    let limits : Entries :=
      [("retention_hours", .int policy.orphanRetentionHours),
        ("max_orphan_files", .int policy.maxOrphanFiles)]
    let reason := "Inspect unreferenced files older than " ++ isoformat cutoff ++
      " before approving any deletion."
    let check : PlanCheck :=
      { rule := "orphan_file_inventory", outcome := .inspect,
        observed := [("cutoff", .string (isoformat cutoff))], threshold := limits, reason }
    return ([check],
      [plannedAction python source .inspectOrphanFiles "scheduled_inventory" reason
        [("older_than", .string (isoformat cutoff))]
        [("max_orphan_files", .int policy.maxOrphanFiles)]])
  else return ([], [])

/-! ## The plan -/

/-- The status of a plan. -/
def planStatus (checks : List PlanCheck) (actions : List PlannedAction) : PlanStatus :=
  if actions ≠ [] then .maintenanceRecommended
  else if checks.any fun check => check.outcome = .deferred then .reviewRequired
  else .healthy

/-- `IcebergMaintenancePlanner.plan`, with the validation of its result. -/
def planMaintenance
    (python : Python)
    (isoformat : Int -> String)
    (validate : Json -> Except String Unit)
    (policy : MaintenancePolicy floats)
    (document : Json) : Except String MaintenancePlan := do
  let (report, source) <- validateReport document
  let files <- objectField report "files"
  let manifests <- objectField report "manifests"
  let fileCount <- integerField files "count"
  let deleteFileCount <- integerField files "delete_file_count"
  let dataFileCount := fileCount - deleteFileCount
  reject (dataFileCount < 0) "files.delete_file_count cannot exceed files.count"
  let (dataFilesCheck, dataFilesActions) <-
    checkDataFiles python policy source files dataFileCount deleteFileCount
  let (manifestsCheck, manifestsActions) <-
    checkManifests python policy source manifests dataFileCount
  let (snapshotsCheck, snapshotsActions) <-
    checkSnapshots python isoformat policy report source
  let (orphanChecks, orphanActions) <- checkOrphanFiles python isoformat policy source
  let checks := [dataFilesCheck, manifestsCheck, snapshotsCheck] ++ orphanChecks
  let actions := dataFilesActions ++ manifestsActions ++ snapshotsActions ++ orphanActions
  let status := planStatus checks actions
  let plan : MaintenancePlan :=
    { planId :=
        identifier python "plan" (.object (planSeed status source policy.json checks actions))
      status, source, policy := policy.json, checks, actions }
  validate plan.asDict
  return plan

end Iceberg
end LakehouseOps
