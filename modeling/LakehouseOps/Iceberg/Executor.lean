import LakehouseOps.Iceberg.Documents
import LakehouseOps.Library.Dialogue
import Mathlib.Data.List.Sort
import Mathlib.Data.String.Basic

/-!
# The maintenance executor

The executor selects one action of a plan, reads the state of the table, and reports a
dry run or calls the procedure of the action. Every statement that it sends to the SQL
engine is a query with the values that its text is built from.
-/

namespace LakehouseOps
namespace Iceberg

open Library Library.Fallible

/-! ## Statements -/

inductive ActionType
  | rewriteDataFiles
  | rewriteManifests
  | expireSnapshots
  | inspectOrphanFiles
  deriving DecidableEq

def ActionType.text : ActionType -> String
  | .rewriteDataFiles => "rewrite_data_files"
  | .rewriteManifests => "rewrite_manifests"
  | .expireSnapshots => "expire_snapshots"
  | .inspectOrphanFiles => "inspect_orphan_files"

/-- The action type of a text. -/
def actionTypeOf (text : String) : Option ActionType :=
  [.rewriteDataFiles, .rewriteManifests, .expireSnapshots, .inspectOrphanFiles].find?
    fun actionType => actionType.text = text

/-- A statement for the SQL engine. -/
inductive Query
  /-- The current snapshot: the newest row of the history. -/
  | history (table : TableParts)
  | snapshots (table : TableParts)
  | dataFiles (table : TableParts)
  | manifests (table : TableParts)
  | rewriteDataFiles (table : TableParts) (targetSize maxFiles : Int)
  | rewriteManifests (table : TableParts)
  | expireSnapshots (table : TableParts) (snapshotIds : List String)
  /-- `remove_orphan_files` with `dry_run => true` over the whole table. -/
  | inspectOrphanFiles (table : TableParts) (olderThan : Int)
  | createCandidateView (view : String) (olderThan : Int) (candidates : List String)
  /-- `remove_orphan_files` over the candidate view. -/
  | removeApprovedOrphans (table : TableParts) (olderThan : Int) (view : String) (dryRun : Bool)
  | dropView (view : String)
  deriving DecidableEq

/-- The statements that change the table. -/
def Query.mutating : Query -> Bool
  | .rewriteDataFiles _ _ _ => true
  | .rewriteManifests _ => true
  | .expireSnapshots _ _ => true
  | .removeApprovedOrphans _ _ _ dryRun => !dryRun
  | _ => false

/-- A program that talks to the SQL engine. -/
abbrev Session (Value : Type) := Dialogue Query (Except String Rows) String Value

/-! ## The state of a table -/

structure TableState where
  snapshotId : String
  snapshotCount : Int
  snapshotIds : List String
  dataFileCount : Int
  recordCount : Int
  manifestCount : Int
  deriving DecidableEq

/-- `str(row["snapshot_id"])` -/
def snapshotIdOf (python : Python) (row : Entries) : Except String String :=
  match row.lookup "snapshot_id" with
  | some value => .ok (python.str value)
  | none => .error "'snapshot_id'"

/-- The checks of `_state` on the rows of its four queries. -/
def tableStateOf (python : Python) (current snapshots files manifests : Rows) :
    Except String TableState :=
  match current, snapshots, files, manifests with
  | [currentRow], firstSnapshot :: otherSnapshots, [fileRow], [manifestRow] => do
      let snapshotIds <- (firstSnapshot :: otherSnapshots).mapM (snapshotIdOf python)
      let snapshotId <- snapshotIdOf python currentRow
      reject (snapshotId ∉ snapshotIds) "current snapshot is absent from snapshot history"
      let dataFileCount <- integerField fileRow "data_file_count"
      let recordCount <- integerField fileRow "record_count"
      let manifestCount <- integerField manifestRow "manifest_count"
      return { snapshotId, snapshotCount := snapshotIds.length, snapshotIds, dataFileCount,
               recordCount, manifestCount }
  | _, _, _, _ => .error "table state queries returned an invalid shape"

/-- `_state` -/
def readState (python : Python) (table : String) : Session TableState := do
  let parts <- Dialogue.attempt (tableParts table)
  let current <- Dialogue.query (.history parts)
  let snapshots <- Dialogue.query (.snapshots parts)
  let files <- Dialogue.query (.dataFiles parts)
  let manifests <- Dialogue.query (.manifests parts)
  Dialogue.attempt (tableStateOf python current snapshots files manifests)

/-- `_table_state` -/
def reportedState (python : Python) (value : Entries) : Except String TableState := do
  let snapshotIds <- stringArrayField python value "snapshot_ids"
  let snapshotId <- stringField value "snapshot_id"
  let snapshotCount <- integerField value "snapshot_count"
  let dataFileCount <- integerField value "data_file_count"
  let recordCount <- integerField value "record_count"
  let manifestCount <- integerField value "manifest_count"
  reject (snapshotCount ≠ snapshotIds.length ∨ snapshotId ∉ snapshotIds)
    "candidate report contains an invalid table state"
  return { snapshotId, snapshotCount, snapshotIds, dataFileCount, recordCount, manifestCount }

/-! ## Reports -/

inductive ExecutionStatus
  | dryRun
  | inspectionComplete
  | noop
  | succeeded
  | reconciliationFailed
  deriving DecidableEq

structure MaintenanceExecutionReport where
  status : ExecutionStatus
  planId : String
  actionId : String
  actionType : String
  table : String
  applied : Bool
  before : TableState
  after : TableState
  procedureResult : List (String × Int)
  candidateSetId : Option String
  candidateFiles : List String

/-- An action of a plan, with what the executor checks before it reads the table. -/
structure Selected where
  planId : String
  table : String
  action : Entries
  actionType : ActionType
  safety : Entries
  expectedSnapshot : String

/-- `_report` -/
def report
    (status : ExecutionStatus)
    (selected : Selected)
    (applied : Bool)
    (before after : TableState)
    (procedureResult : List (String × Int))
    (candidateSetId : Option String)
    (candidateFiles : List String) : Except String MaintenanceExecutionReport := do
  let actionId <- stringField selected.action "action_id"
  let actionType <- stringField selected.action "action_type"
  return { status, planId := selected.planId, actionId, actionType, table := selected.table,
           applied, before, after, procedureResult, candidateSetId, candidateFiles }

/-! ## Selection -/

/-- Whether an item of the actions is the action of the id. -/
def hasActionId (actionId : String) : Json -> Option Entries
  | .object action =>
      match action.lookup "action_id" with
      | some (.string text) => if text = actionId then some action else none
      | _ => none
  | _ => none

/-- `_select_action` -/
def selectAction (plan : Json) (actionId : String) :
    Except String (String × String × Entries × ActionType) :=
  match plan with
  | .object plan =>
      match plan.lookup "schema_version" with
      | some (.string "1.0") => do
          let planId <- stringField plan "plan_id"
          let table <- stringField plan "table"
          match plan.lookup "actions" with
          | some (.array actions) =>
              match actions.filterMap (hasActionId actionId) with
              | [action] =>
                  match action.lookup "action_type" with
                  | some (.string text) =>
                      match actionTypeOf text with
                      | some actionType => return (planId, table, action, actionType)
                      | none => .error "unsupported action type"
                  | _ => .error "unsupported action type"
              | _ => .error "action ID must select exactly one action"
          | _ => .error "actions must be an array"
      | _ => .error "unsupported maintenance plan schema_version"
  | _ => .error "unsupported maintenance plan schema_version"

/-- The value is `True`. -/
def isTrue : Option Json -> Bool
  | some (.bool value) => value
  | _ => false

/-- The part of `run` in front of the first query. -/
def selectRun (plan : Json) (actionId : String) : Except String Selected := do
  let (planId, table, action, actionType) <- selectAction plan actionId
  let safety <- objectField action "safety_bounds"
  let expectedSnapshot <- stringField safety "expected_snapshot_id"
  reject (!isTrue (safety.lookup "dry_run_required")) "action must require a dry run"
  let jobs <- integerField safety "max_concurrent_jobs"
  reject (jobs ≠ 1) "max_concurrent_jobs must equal one"
  return { planId, table, action, actionType, safety, expectedSnapshot }

/-! ## Approvals -/

/-- The arguments of `run` besides the plan and the action. -/
structure RunOptions where
  apply : Bool
  approvedPlanId : Option String
  approvedSnapshotId : Option String
  approvedCandidateSetId : Option String
  candidateReport : Option Json

/-- `_verify_approvals` -/
def verifyApprovals (selected : Selected) (options : RunOptions) : Except String Unit := do
  reject (options.approvedPlanId ≠ some selected.planId) "approved plan ID does not match"
  reject (options.approvedSnapshotId ≠ some selected.expectedSnapshot)
    "approved snapshot ID does not match"

/-- A row of `_orphan_files`. -/
def orphanFile (row : Entries) : Except String String :=
  match row.lookup "orphan_file_location" with
  | some (.string location) =>
      if badPart location then .error "orphan inventory returned an invalid file location"
      else .ok location
  | _ => .error "orphan inventory returned an invalid file location"

/-- `_orphan_files` -/
def orphanFiles (rows : Rows) : Except String (List String) := do
  let candidates <- rows.mapM orphanFile
  reject (¬candidates.Nodup) "orphan inventory returned duplicate locations"
  return candidates.insertionSort (· ≤ ·)

/-- `_candidate_set_id` -/
def candidateSetId (python : Python) (table olderThan : String) (candidates : List String) :
    String :=
  let value := python.dumps (.object
    [("table", .string table), ("older_than", .string olderThan),
      ("files", .array (candidates.map Json.string))])
  "orphans-" ++ String.ofList ((python.sha256 value).toList.take 16)

/-- The value equals the text. -/
def isText (text : String) : Option Json -> Bool
  | some (.string value) => value = text
  | _ => false

/-- The value equals `False`. -/
def equalsFalse : Option Json -> Bool
  | some (.bool value) => !value
  | some (.int number) => number = 0
  | some (.float text) => text = "0.0" || text = "-0.0"
  | _ => false

/-- The files that an approved report names, as rows of an inventory. -/
def candidateFileRows (value : Option Json) : Except String Rows :=
  match value with
  | some (.array files) => .ok (files.map fun file => [("orphan_file_location", file)])
  | _ => .error "candidate_files must be an array"

/-- `_approved_orphan_candidates` -/
def approvedOrphanCandidates
    (python : Python)
    (candidateReport : Option Json)
    (selected : Selected)
    (olderThan : String)
    (currentState : TableState)
    (approvedCandidateSetId : Option String)
    (maxCandidates : Int) : Except String (List String) :=
  match candidateReport with
  | some (.object entries) => do
      reject (!isText "1.0" (entries.lookup "schema_version"))
        "approved candidate report is required"
      let actionId <- stringField selected.action "action_id"
      reject (!(isText "inspection_complete" (entries.lookup "status") &&
          isText selected.planId (entries.lookup "plan_id") &&
          isText actionId (entries.lookup "action_id") &&
          isText "inspect_orphan_files" (entries.lookup "action_type") &&
          isText selected.table (entries.lookup "table") &&
          equalsFalse (entries.lookup "applied")))
        "candidate report does not match the selected action"
      let before <- reportedState python (<- objectField entries "before")
      let after <- reportedState python (<- objectField entries "after")
      reject (before ≠ after ∨ before ≠ currentState)
        "table state changed since orphan inspection"
      let candidates <- orphanFiles (<- candidateFileRows (entries.lookup "candidate_files"))
      reject (maxCandidates < candidates.length) "approved candidate set exceeds the safety bound"
      let result <- objectField entries "procedure_result"
      let count <- integerField result "orphan_file_count"
      reject (count ≠ candidates.length) "candidate report count does not match its files"
      let expectedSetId := candidateSetId python selected.table olderThan candidates
      reject (!isText expectedSetId (entries.lookup "candidate_set_id"))
        "candidate report digest does not match its files"
      reject (approvedCandidateSetId ≠ some expectedSetId)
        "approved candidate set ID does not match"
      return candidates
  | _ => .error "approved candidate report is required"

/-! ## Orphan files -/

/-- The name of the candidate view. -/
def candidateView (setId : String) : String :=
  "lakehouse_ops_" ++ setId.map fun character => if character = '-' then '_' else character

/-- The deletion of the approved files, between the creation of the view and its drop. -/
def deleteCandidates
    (python : Python)
    (table olderThan view : String)
    (candidates : List String) : Session (List String) := do
  let parts <- Dialogue.attempt (tableParts table)
  let literal <- Dialogue.attempt (timestampLiteral python olderThan)
  let verifiedRows <- Dialogue.query (.removeApprovedOrphans parts literal view true)
  let verified <- Dialogue.attempt (orphanFiles verifiedRows)
  Dialogue.reject (verified ≠ candidates)
    "approved candidate set is no longer entirely orphaned"
  let deletedRows <- Dialogue.query (.removeApprovedOrphans parts literal view false)
  Dialogue.attempt (orphanFiles deletedRows)

/-- The drop of the view. -/
def dropCandidateView (view : String) : Session Unit := do
  let _ <- Dialogue.query (.dropView view)
  return ()

/-- `_remove_orphan_files` -/
def removeOrphanFiles
    (python : Python)
    (selected : Selected)
    (olderThan : String)
    (before : TableState)
    (candidates : List String) : Session MaintenanceExecutionReport :=
  let setId := candidateSetId python selected.table olderThan candidates
  if candidates = [] then
    Dialogue.attempt (report .noop selected false before before
      [("orphan_file_count", 0), ("deleted_orphan_file_count", 0)] (some setId) [])
  else do
    let view := candidateView setId
    let literal <- Dialogue.attempt (timestampLiteral python olderThan)
    let _ <- Dialogue.query (.createCandidateView view literal candidates)
    let deleted <- (deleteCandidates python selected.table olderThan view candidates).lastly
      (dropCandidateView view)
    let after <- readState python selected.table
    let status :=
      if deleted = candidates ∧ after = before then ExecutionStatus.succeeded
      else ExecutionStatus.reconciliationFailed
    Dialogue.attempt (report status selected true before after
      [("orphan_file_count", candidates.length), ("deleted_orphan_file_count", deleted.length)]
      (some setId) candidates)

/-- The dry run over the whole table. -/
def inspectOrphanFiles
    (python : Python)
    (selected : Selected)
    (olderThan : String)
    (before : TableState) : Session MaintenanceExecutionReport := do
  let parts <- Dialogue.attempt (tableParts selected.table)
  let literal <- Dialogue.attempt (timestampLiteral python olderThan)
  let rows <- Dialogue.query (.inspectOrphanFiles parts literal)
  let candidates <- Dialogue.attempt (orphanFiles rows)
  let maxCandidates <- Dialogue.attempt (positiveBound selected.safety "max_orphan_files")
  Dialogue.reject (maxCandidates < candidates.length)
    "orphan inventory exceeds the review safety bound"
  Dialogue.attempt (report .inspectionComplete selected false before before
    [("orphan_file_count", candidates.length)]
    (some (candidateSetId python selected.table olderThan candidates)) candidates)

/-! ## Procedures -/

/-- The two lists have the same elements. -/
def sameElements (left right : List String) : Bool :=
  left.all (· ∈ right) && right.all (· ∈ left)

/-- The checks of `_execute`, and the call that it sends. -/
def procedureCall (python : Python) (selected : Selected) (before : TableState) :
    Except String Query :=
  match selected.actionType with
  | .rewriteDataFiles => do
      let maxFiles <- positiveBound selected.safety "max_files_to_rewrite"
      let parameters <- objectField selected.action "parameters"
      let targetSize <- integerField parameters "target_file_size_bytes"
      reject (targetSize ≤ 0) "target_file_size_bytes must be positive"
      return .rewriteDataFiles (<- tableParts selected.table) targetSize maxFiles
  | .rewriteManifests => do
      let maxManifests <- positiveBound selected.safety "max_manifests_to_rewrite"
      reject (maxManifests < before.manifestCount)
        "manifest count exceeds the rewrite safety bound"
      return .rewriteManifests (<- tableParts selected.table)
  | .expireSnapshots => do
      let parameters <- objectField selected.action "parameters"
      let snapshotIds <- stringArrayField python parameters "snapshot_ids"
      let expectedHistory <-
        stringArrayField python selected.safety "expected_history_snapshot_ids"
      let maxSnapshots <- positiveBound selected.safety "max_snapshots_to_expire"
      reject (snapshotIds = [] ∨ maxSnapshots < snapshotIds.length)
        "snapshot expiration batch exceeds safety bound"
      reject (¬snapshotIds.Nodup) "snapshot expiration IDs must be unique"
      reject (!sameElements before.snapshotIds expectedHistory)
        "snapshot history does not match the approved plan"
      reject (before.snapshotId ∈ snapshotIds) "current snapshot cannot be expired"
      reject (!snapshotIds.all (· ∈ before.snapshotIds))
        "expiration target is absent from live history"
      return .expireSnapshots (<- tableParts selected.table) snapshotIds
  | .inspectOrphanFiles => .error "unsupported action type"

/-- The columns of a procedure's result. -/
def procedureColumns : ActionType -> List String
  | .rewriteManifests => ["rewritten_manifests_count", "added_manifests_count"]
  | .rewriteDataFiles =>
      ["rewritten_data_files_count", "added_data_files_count", "rewritten_bytes_count",
        "failed_data_files_count"]
  | .expireSnapshots =>
      ["deleted_data_files_count", "deleted_position_delete_files_count",
        "deleted_equality_delete_files_count", "deleted_manifest_files_count",
        "deleted_manifest_lists_count", "deleted_statistics_files_count"]
  | .inspectOrphanFiles => []

/-- `_procedure_result` -/
def procedureResult (actionType : ActionType) (row : Entries) :
    Except String (List (String × Int)) :=
  (procedureColumns actionType).mapM fun key => do
    let value <- integerField row key
    return (key, value)

/-- `_reconcile` -/
def reconcile
    (python : Python)
    (selected : Selected)
    (before after : TableState)
    (result : List (String × Int)) : Except String ExecutionStatus := do
  let count (key : String) : Int := (result.lookup key).getD 0
  if before.recordCount ≠ after.recordCount then return .reconciliationFailed
  match selected.actionType with
  | .expireSnapshots =>
      let parameters <- objectField selected.action "parameters"
      let targetIds <- stringArrayField python parameters "snapshot_ids"
      let expected := before.snapshotIds.filter fun id => id ∉ targetIds
      if after.snapshotId ≠ before.snapshotId ∨ before.dataFileCount ≠ after.dataFileCount ∨
          before.manifestCount ≠ after.manifestCount ∨
          !sameElements after.snapshotIds expected ∨
          before.snapshotCount ≤ after.snapshotCount then
        return .reconciliationFailed
      else return .succeeded
  | .rewriteManifests =>
      let rewritten := count "rewritten_manifests_count"
      if before.dataFileCount ≠ after.dataFileCount then return .reconciliationFailed
      else if rewritten = 0 then
        return if before = after then .noop else .reconciliationFailed
      else if after.snapshotId = before.snapshotId ∨ before.manifestCount ≤ after.manifestCount ∨
          rewritten ≤ count "added_manifests_count" then
        return .reconciliationFailed
      else return .succeeded
  | _ =>
      let rewritten := count "rewritten_data_files_count"
      if count "failed_data_files_count" ≠ 0 then return .reconciliationFailed
      else if rewritten = 0 then
        return if before = after then .noop else .reconciliationFailed
      else if after.snapshotId = before.snapshotId ∨
          before.dataFileCount ≤ after.dataFileCount then
        return .reconciliationFailed
      else return .succeeded

/-- The call of the procedure, and what follows it. -/
def callProcedure
    (python : Python)
    (selected : Selected)
    (before : TableState)
    (call : Query) : Session MaintenanceExecutionReport := do
  let rows <- Dialogue.query call
  match rows with
  | [row] =>
      let result <- Dialogue.attempt (procedureResult selected.actionType row)
      let after <- readState python selected.table
      let status <- Dialogue.attempt (reconcile python selected before after result)
      Dialogue.attempt (report status selected true before after result none [])
  | _ => Dialogue.fail (selected.actionType.text ++ " must return exactly one row")

/-! ## The run -/

/-- The branch of an orphan inspection. -/
def runOrphanFiles
    (python : Python)
    (selected : Selected)
    (options : RunOptions)
    (before : TableState) : Session MaintenanceExecutionReport := do
  let parameters <- Dialogue.attempt (objectField selected.action "parameters")
  let olderThan <- Dialogue.attempt (stringField parameters "older_than")
  if options.apply then
    Dialogue.attempt (verifyApprovals selected options)
    let maxCandidates <- Dialogue.attempt (positiveBound selected.safety "max_orphan_files")
    let candidates <- Dialogue.attempt (approvedOrphanCandidates python options.candidateReport
      selected olderThan before options.approvedCandidateSetId maxCandidates)
    removeOrphanFiles python selected olderThan before candidates
  else inspectOrphanFiles python selected olderThan before

/-- The branch of the other actions. -/
def runProcedure
    (python : Python)
    (selected : Selected)
    (options : RunOptions)
    (before : TableState) : Session MaintenanceExecutionReport :=
  if options.apply then do
    Dialogue.attempt (verifyApprovals selected options)
    let call <- Dialogue.attempt (procedureCall python selected before)
    callProcedure python selected before call
  else Dialogue.attempt (report .dryRun selected false before before [] none [])

/-- `SparkMaintenanceExecutor.run` -/
def run (python : Python) (plan : Json) (actionId : String) (options : RunOptions) :
    Session MaintenanceExecutionReport := do
  let selected <- Dialogue.attempt (selectRun plan actionId)
  let before <- readState python selected.table
  Dialogue.reject (before.snapshotId ≠ selected.expectedSnapshot)
    "current snapshot does not match the plan safety bound"
  if selected.actionType = .inspectOrphanFiles then
    runOrphanFiles python selected options before
  else runProcedure python selected options before

end Iceberg
end LakehouseOps
