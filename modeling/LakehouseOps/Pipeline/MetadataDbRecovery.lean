import LakehouseOps.Library.CanonicalJson
import LakehouseOps.Library.Dialogue
import LakehouseOps.Library.Fallible

/-!
# The recovery drill of the metadata database

The drill stops the metastore, takes a backup, removes the catalog, restores it and starts
the metastore again. Every step is a callback that returns what it likes or raises.
-/

namespace LakehouseOps
namespace Pipeline
namespace MetadataDbRecovery

open Library Library.Fallible

variable {Double : Type}

/-! ## Evidence -/

/-- What Python makes of values. -/
structure Python (Double : Type) where
  /-- `left == right` -/
  same : Document Double -> Document Double -> Bool
  isDigits : Text -> Bool
  /-- `round(finished - started, 3)` -/
  duration : Document Double -> Document Double -> Document Double
  /-- Whether a value is a number that is no `bool` and not below zero. -/
  isDuration : Document Double -> Bool

/-- `value.get(key)` of a dictionary -/
def getField (value : Document Double) (key : String) : Option (Document Double) :=
  match value with
  | .object fields => fields.lookup (text key)
  | _ => none

def isObject : Document Double -> Bool
  | .object _ => true
  | _ => false

def textOf : Document Double -> Option Text
  | .string value => some value
  | _ => none

/-- `_non_empty` -/
def nonEmpty (field : Option (Document Double)) : Bool :=
  match field with
  | some (.string value) => value ≠ []
  | _ => false

def isPositive (field : Option (Document Double)) : Bool :=
  match field with
  | some (.int value) => 0 < value
  | _ => false

def isFlag (field : Option (Document Double)) (expected : Bool) : Bool :=
  match field with
  | some (.bool value) => value = expected
  | _ => false

/-- `SHA256.fullmatch`, and the check of `_container_id` -/
def isHash (field : Option (Document Double)) : Bool :=
  match field with
  | some (.string value) =>
      value.length = 64 && value.all fun point => decide (point ∈ text "0123456789abcdef")
  | _ => false

/-- `REQUIRED_TABLES` -/
def requiredTables : List Text :=
  [text "DBS", text "SDS", text "SERDES", text "TBLS", text "VERSION"]

/-- `value.get("required_tables") == list(REQUIRED_TABLES)` -/
def listsRequiredTables (value : Document Double) : Bool :=
  match getField value "required_tables" with
  | some (.array tables) => tables.map textOf = requiredTables.map some
  | _ => false

/-- A list of texts. -/
def isTextList (field : Option (Document Double)) : Bool :=
  match field with
  | some (.array tables) => tables.all fun table => (textOf table).isSome
  | _ => false

/-- `_backup` -/
def checkBackup (value : Document Double) : Except String Unit := do
  reject (isObject value = false) "backup evidence is missing"
  reject ((getField value "format").bind textOf ≠ some (text "postgresql-custom"))
    "backup format is unexpected"
  reject (nonEmpty (getField value "file_name") = false) "backup file name is missing"
  reject (isPositive (getField value "size_bytes") = false) "backup size is invalid"
  reject (isHash (getField value "sha256") = false) "backup checksum is invalid"
  reject (isPositive (getField value "toc_entries") = false) "backup table-of-contents is empty"
  reject (isTextList (getField value "required_tables") = false)
    "backup required-table evidence is invalid"

/-- `_catalog_manifest` -/
def checkCatalogManifest (name : String) (value : Document Double) : Except String Unit := do
  reject (isObject value = false) (name ++ " catalog manifest is missing")
  reject (nonEmpty (getField value "metastore_schema_version") = false)
    (name ++ " metastore schema version is missing")
  reject (isPositive (getField value "entry_count") = false)
    (name ++ " catalog entry count is invalid")
  reject (isHash (getField value "entries_sha256") = false) (name ++ " catalog checksum is invalid")
  reject (listsRequiredTables value = false) (name ++ " catalog core tables are incomplete")

/-- `_trino_state` -/
def checkTrinoState (python : Python Double) (name : String) (value : Document Double) :
    Except String Unit := do
  reject (isObject value = false) (name ++ " Trino evidence is missing")
  reject (nonEmpty (getField value "query_id") = false) (name ++ " Trino query ID is missing")
  reject (isPositive (getField value "row_count") = false) (name ++ " Trino row count is invalid")
  reject (((getField value "snapshot_id").bind textOf).any python.isDigits = false)
    (name ++ " Iceberg snapshot ID is invalid")

/-- `_loss` -/
def checkLoss (value : Document Double) : Except String Unit := do
  reject (isObject value = false) "catalog loss evidence is missing"
  match getField value "core_table_count" with
  | some (.int 0) => return
  | _ => .error "catalog loss did not remove every core table"

/-- `_topology` -/
def checkTopology (name : String) (metastoreRunning : Bool) (value : Document Double) :
    Except String Unit := do
  reject (isObject value = false) (name ++ " topology is missing")
  reject (isFlag (getField value "metastore_running") metastoreRunning = false)
    (name ++ " Hive Metastore state is unexpected")
  reject (isFlag (getField value "database_running") true = false)
    (name ++ " metadata database is not running")
  reject (isHash (getField value "metastore_container_id") = false)
    (name ++ " metastore_container_id is invalid")
  reject (isHash (getField value "database_container_id") = false)
    (name ++ " database_container_id is invalid")

/-! ## The report -/

/-- The evidence of a phase in which the metastore runs. -/
structure Phase (Double : Type) where
  catalog : Document Double
  trino : Document Double
  topology : Document Double

/-- The invariants of a report. -/
structure Invariants where
  backupVerified : Bool
  catalogLossObserved : Bool
  catalogManifestPreserved : Bool
  rowCountPreserved : Bool
  snapshotPreserved : Bool
  databaseContainerPreserved : Bool
  metastoreServiceRestored : Bool
  deriving DecidableEq

/-- A report; the fields that are constants are left out. -/
structure Report (Double : Type) where
  security : Option (Document Double)
  collectedAt : Document Double
  recoveryDurationSeconds : Document Double
  backup : Document Double
  baseline : Phase Double
  stopped : Document Double
  loss : Document Double
  lossTopology : Document Double
  recovery : Phase Double
  invariants : Invariants

/-- Whether two dictionaries have the same value at a key. -/
def sameField (python : Python Double) (left right : Document Double) (key : String) : Bool :=
  match getField left key, getField right key with
  | some leftValue, some rightValue => python.same leftValue rightValue
  | _, _ => false

/-- The container of the database, as a topology has it. -/
def databaseContainer (topology : Document Double) : Option Text :=
  (getField topology "database_container_id").bind textOf

/-- Whether all topologies have the container of the first. -/
def sameContainer (baseline : Document Double) (others : List (Document Double)) : Bool :=
  others.all fun topology => databaseContainer topology = databaseContainer baseline

/-- `_phase`, for a phase in which the metastore runs -/
def checkPhase (python : Python Double) (name : String) (phase : Phase Double) :
    Except String Unit := do
  checkCatalogManifest name phase.catalog
  checkTrinoState python name phase.trino
  checkTopology name true phase.topology

/-- `AUTHENTICATED_RANGER_SECURITY` -/
def authenticatedRangerSecurity : Document Double :=
  .object [(text "authentication", .string (text "password")),
    (text "authorization", .string (text "ranger")),
    (text "query_user", .string (text "platform_admin")),
    (text "tls_verified", .bool true),
    (text "transport", .string (text "https"))]

/-- `validate_metadata_db_recovery_report` -/
def validateMetadataDbRecoveryReport (python : Python Double) (report : Report Double) :
    Except String Unit := do
  reject (report.security.any (fun security =>
      !python.same security authenticatedRangerSecurity) = true)
    "authenticated Ranger security evidence is invalid"
  reject (nonEmpty (some report.collectedAt) = false) "report collection time is missing"
  reject (python.isDuration report.recoveryDurationSeconds = false) "recovery duration is invalid"
  checkBackup report.backup
  checkPhase python "baseline" report.baseline
  checkTopology "stopped" false report.stopped
  checkLoss report.loss
  checkTopology "loss" false report.lossTopology
  checkPhase python "recovery" report.recovery
  reject (listsRequiredTables report.backup = false)
    "backup does not contain every required metastore table"
  reject (python.same report.baseline.catalog report.recovery.catalog = false)
    "catalog manifest changed after restore"
  reject (sameField python report.baseline.trino report.recovery.trino "row_count" = false)
    "Trino row count changed after restore"
  reject (sameField python report.baseline.trino report.recovery.trino "snapshot_id" = false)
    "Iceberg snapshot changed after restore"
  reject (sameContainer report.baseline.topology
      [report.stopped, report.lossTopology, report.recovery.topology] = false)
    "metadata database container changed during restore"
  reject (report.invariants ≠ ⟨true, true, true, true, true, true, true⟩)
    "metadata database recovery invariants are incomplete"

/-! ## The drill -/

/-- The callbacks, with the calls of the client that a callback made and the clocks. -/
inductive Callback
  | serviceState
  | captureCatalogManifest
  | clientFactory
  | queryWithStats
  | close
  | monotonic
  | stopMetastore
  | backupDatabase
  | injectCatalogLoss
  | inspectCatalogLoss
  | restoreDatabase
  | startMetastore
  | clock
  deriving DecidableEq

/-- What a callback returns: a value, or for a query its rows and its id. -/
structure Reply (Double : Type) where
  value : Document Double
  rows : List (Document Double)
  queryId : Document Double

/-- What a callback does: it returns, or it raises. -/
abbrev Answer (Double : Type) := Except String (Reply Double)

/-- A part of the drill. -/
abbrev Drill (Double Error Value : Type) := Dialogue Callback (Answer Double) Error Value

/-- Call a callback. -/
def call (callback : Callback) : Drill Double String (Reply Double) :=
  Dialogue.query callback

def nullable (field : Option (Document Double)) : Document Double :=
  field.getD .null

/-- `capture_trino_state`, of the client that `client_factory` makes -/
def captureTrinoState (python : Python Double) : Drill Double String (Document Double) := do
  let _ <- call .clientFactory
  let result <- (call .queryWithStats).lastly (call .close >>= fun _ => .done ())
  match result.rows with
  | [row] =>
      let state := Document.object [(text "query_id", result.queryId),
        (text "row_count", nullable (getField row "row_count")),
        (text "snapshot_id", nullable (getField row "snapshot_id"))]
      Dialogue.attempt (checkTrinoState python "captured" state)
      return state
  | _ => .fail "Trino reconciliation returned an unexpected row count"

/-- The evidence of a phase in which the metastore runs. -/
def capturePhase (python : Python Double) (name : String) : Drill Double String (Phase Double) := do
  let topology <- call .serviceState
  Dialogue.attempt (checkTopology name true topology.value)
  let catalog <- call .captureCatalogManifest
  Dialogue.attempt (checkCatalogManifest name catalog.value)
  let trino <- captureTrinoState python
  return { catalog := catalog.value, trino, topology := topology.value }

/-- The local variables that the `finally` clause looks at. -/
structure Flags where
  metastoreStopped : Bool
  restoreRequired : Bool
  databaseRestored : Bool

/-- What the `try` statement gathers. -/
structure Evidence (Double : Type) where
  stopped : Document Double
  backup : Document Double
  loss : Document Double
  lossTopology : Document Double

/-- Call a callback in the `try` statement. -/
def callWith (flags : Flags) (callback : Callback) :
    Drill Double (Flags × String) (Reply Double) :=
  .ask callback fun answer => Dialogue.attempt (answer.mapError fun problem => (flags, problem))

/-- Check a value in the `try` statement. -/
def checkWith (flags : Flags) (checked : Except String Unit) :
    Drill Double (Flags × String) Unit :=
  Dialogue.attempt (checked.mapError fun problem => (flags, problem))

def startFlags : Flags := ⟨false, false, false⟩

def stoppedFlags : Flags := ⟨true, false, false⟩

def lossFlags : Flags := ⟨true, true, false⟩

def restoredFlags : Flags := ⟨true, true, true⟩

/-- The body of the `try` statement; an error comes with the variables as they are then. -/
def drillBody : Drill Double (Flags × String) (Evidence Double) := do
  let _ <- callWith startFlags .stopMetastore
  let stopped <- callWith stoppedFlags .serviceState
  checkWith stoppedFlags (checkTopology "stopped" false stopped.value)
  let backup <- callWith stoppedFlags .backupDatabase
  checkWith stoppedFlags (checkBackup backup.value)
  let _ <- callWith lossFlags .injectCatalogLoss
  let loss <- callWith lossFlags .inspectCatalogLoss
  checkWith lossFlags (checkLoss loss.value)
  let lossTopology <- callWith lossFlags .serviceState
  checkWith lossFlags (checkTopology "loss" false lossTopology.value)
  let _ <- callWith lossFlags .restoreDatabase
  let _ <- callWith restoredFlags .startMetastore
  return {
    stopped := stopped.value
    backup := backup.value
    loss := loss.value
    lossTopology := lossTopology.value }

def callIf (condition : Prop) [Decidable condition] (callback : Callback) :
    Drill Double String Unit :=
  if condition then call callback >>= fun _ => .done () else .done ()

/-- The `finally` clause. -/
def restoreServices (flags : Flags) : Drill Double String Unit := do
  callIf (flags.restoreRequired = true ∧ flags.databaseRestored = false) .restoreDatabase
  callIf (flags.metastoreStopped = true) .startMetastore

/-- The `try` statement behind its body. When the body returns, the database is restored and
the metastore runs, so the `finally` clause does nothing. -/
def finishDrill :
    Except (Flags × String) (Evidence Double) -> Drill Double String (Evidence Double)
  | .ok evidence => restoreServices ⟨false, true, true⟩ >>= fun _ => .done evidence
  | .error (flags, problem) => restoreServices flags >>= fun _ => .fail problem

/-- The `try` statement. -/
def drill : Drill Double String (Evidence Double) :=
  drillBody.recover finishDrill

/-- The report of a drill. -/
def reportOf
    (python : Python Double)
    (security : Option (Document Double))
    (baseline recovery : Phase Double)
    (evidence : Evidence Double)
    (duration collectedAt : Document Double) : Report Double where
  security
  collectedAt
  recoveryDurationSeconds := duration
  backup := evidence.backup
  baseline
  stopped := evidence.stopped
  loss := evidence.loss
  lossTopology := evidence.lossTopology
  recovery
  invariants := {
    backupVerified := listsRequiredTables evidence.backup
    catalogLossObserved := (checkLoss evidence.loss).toBool
    catalogManifestPreserved := python.same recovery.catalog baseline.catalog
    rowCountPreserved := sameField python recovery.trino baseline.trino "row_count"
    snapshotPreserved := sameField python recovery.trino baseline.trino "snapshot_id"
    databaseContainerPreserved := sameContainer baseline.topology
      [evidence.stopped, evidence.lossTopology, recovery.topology]
    metastoreServiceRestored := isFlag (getField recovery.topology "metastore_running") true }

/-- `run_metadata_db_recovery` -/
def runMetadataDbRecovery (python : Python Double) (security : Option (Document Double)) :
    Drill Double String (Report Double) := do
  let baseline <- capturePhase python "baseline"
  let started <- call .monotonic
  let evidence <- drill
  let recovery <- capturePhase python "recovery"
  let finished <- call .monotonic
  let collected <- call .clock
  let report := reportOf python security baseline recovery evidence
    (python.duration started.value finished.value) collected.value
  Dialogue.attempt (validateMetadataDbRecoveryReport python report)
  return report

/-! ## What the drill promises -/

/-- What was called, with what it did. -/
abbrev History (Double : Type) := Exchanges Callback (Answer Double)

/-- The metastore was stopped and not started since. -/
def Stopped (history : History Double) : Prop :=
  Exists fun earlier => Exists fun reply => Exists fun later =>
    history = earlier ++ (.stopMetastore, .ok reply) :: later ∧
      forall answer, (Callback.startMetastore, answer) ∉ later

/-- What the validation of the report demands of the backup. -/
def Demanded (backup : Document Double) : Prop :=
  checkBackup backup = .ok () ∧ listsRequiredTables backup = true

/-- A report is valid only with such a backup. -/
theorem demanded_of_validated {python : Python Double} {report : Report Double}
    (valid : validateMetadataDbRecoveryReport python report = .ok ()) : Demanded report.backup := by
  simp only [validateMetadataDbRecoveryReport, bind_eq_ok_iff, reject_eq_ok_iff] at valid
  obtain ⟨_, _, _, _, _, _, _, checked, _, _, _, _, _, _, _, _, _, _, _, lists, _⟩ := valid
  exact ⟨checked, Bool.eq_true_of_not_eq_false lists⟩

/-- The validation demands nothing else of the backup. -/
theorem validate_of_demanded {python : Python Double} {report : Report Double}
    {backup : Document Double} (demanded : Demanded report.backup) (isDemanded : Demanded backup) :
    validateMetadataDbRecoveryReport python { report with backup } =
      validateMetadataDbRecoveryReport python report := by
  simp only [validateMetadataDbRecoveryReport, demanded.1, demanded.2, isDemanded.1, isDemanded.2]

/-- A backup was taken that the validation of the report accepts. -/
def BackedUp (history : History Double) : Prop :=
  Exists fun reply => (Callback.backupDatabase, .ok reply) ∈ history ∧ Demanded reply.value

def LossAttempted (history : History Double) : Prop :=
  Exists fun answer => (Callback.injectCatalogLoss, answer) ∈ history

/-- A restore was attempted, and no loss injected since. -/
def RestoreAttempted (history : History Double) : Prop :=
  Exists fun earlier => Exists fun answer => Exists fun later =>
    history = earlier ++ (.restoreDatabase, answer) :: later ∧
      forall other, (Callback.injectCatalogLoss, other) ∉ later

/-- A restore returned, and no loss was injected since. -/
def Restored (history : History Double) : Prop :=
  Exists fun earlier => Exists fun reply => Exists fun later =>
    history = earlier ++ (.restoreDatabase, .ok reply) :: later ∧
      forall other, (Callback.injectCatalogLoss, other) ∉ later

/-- What the code makes sure of before it calls a callback. -/
def Guarded (history : History Double) : Callback -> Prop
  | .injectCatalogLoss =>
      Exists fun earlier => Exists fun reply =>
        history = earlier ++ [(.backupDatabase, .ok reply)] ∧
          (forall answer, (Callback.backupDatabase, answer) ∉ earlier) ∧
          Stopped history ∧ checkBackup reply.value = .ok ()
  | .startMetastore => LossAttempted history -> Restored history
  | _ => True

/-- No loss was injected, or a restore was attempted behind it. -/
def Recovered (history : History Double) : Prop :=
  LossAttempted history -> RestoreAttempted history

theorem RestoreAttempted.append {history : History Double} (attempted : RestoreAttempted history)
    {callback : Callback} (noLoss : callback ≠ .injectCatalogLoss) (answer : Answer Double) :
    RestoreAttempted (history ++ [(callback, answer)]) := by
  obtain ⟨earlier, restored, later, rfl, noneSince⟩ := attempted
  refine ⟨earlier, restored, later ++ [(callback, answer)], List.append_assoc _ _ _,
    fun other member => ?_⟩
  rcases List.mem_append.mp member with before | last
  · exact noneSince other before
  · exact noLoss (Prod.mk.inj (List.mem_singleton.mp last)).1.symm

theorem Restored.append {history : History Double} (restored : Restored history)
    {callback : Callback} (noLoss : callback ≠ .injectCatalogLoss) (answer : Answer Double) :
    Restored (history ++ [(callback, answer)]) := by
  obtain ⟨earlier, reply, later, rfl, noneSince⟩ := restored
  refine ⟨earlier, reply, later ++ [(callback, answer)], List.append_assoc _ _ _,
    fun other member => ?_⟩
  rcases List.mem_append.mp member with before | last
  · exact noneSince other before
  · exact noLoss (Prod.mk.inj (List.mem_singleton.mp last)).1.symm

theorem Stopped.append {history : History Double} (stopped : Stopped history)
    {callback : Callback} (noStart : callback ≠ .startMetastore) (answer : Answer Double) :
    Stopped (history ++ [(callback, answer)]) := by
  obtain ⟨earlier, reply, later, rfl, noneSince⟩ := stopped
  refine ⟨earlier, reply, later ++ [(callback, answer)], List.append_assoc _ _ _,
    fun other member => ?_⟩
  rcases List.mem_append.mp member with before | last
  · exact noneSince other before
  · exact noStart (Prod.mk.inj (List.mem_singleton.mp last)).1.symm

theorem stopped_last (history : History Double) (reply : Reply Double) :
    Stopped (history ++ [(.stopMetastore, .ok reply)]) :=
  ⟨history, reply, [], rfl, fun _ => List.not_mem_nil⟩

theorem Restored.attempted {history : History Double} (restored : Restored history) :
    RestoreAttempted history := by
  obtain ⟨earlier, reply, later, same, noneSince⟩ := restored
  exact ⟨earlier, .ok reply, later, same, noneSince⟩

theorem restored_last (history : History Double) (reply : Reply Double) :
    Restored (history ++ [(.restoreDatabase, .ok reply)]) :=
  ⟨history, reply, [], rfl, fun _ => List.not_mem_nil⟩

theorem restoreAttempted_last (history : History Double) (answer : Answer Double) :
    RestoreAttempted (history ++ [(.restoreDatabase, answer)]) :=
  ⟨history, answer, [], rfl, fun _ => List.not_mem_nil⟩

/-- Another callback does not inject a loss. -/
theorem not_lossAttempted_append {history : History Double} (safe : ¬LossAttempted history)
    {callback : Callback} (noLoss : callback ≠ .injectCatalogLoss) (answer : Answer Double) :
    ¬LossAttempted (history ++ [(callback, answer)]) := by
  rintro ⟨other, member⟩
  rcases List.mem_append.mp member with before | last
  · exact safe ⟨other, before⟩
  · exact noLoss (Prod.mk.inj (List.mem_singleton.mp last)).1.symm

theorem Recovered.append {history : History Double} (recovered : Recovered history)
    {callback : Callback} (noLoss : callback ≠ .injectCatalogLoss) (answer : Answer Double) :
    Recovered (history ++ [(callback, answer)]) := by
  by_cases attempted : LossAttempted history
  · exact fun _ => (recovered attempted).append noLoss answer
  · exact fun lost => absurd lost (not_lossAttempted_append attempted noLoss answer)

/-! ## Steps of the `try` statement -/

section Steps

variable {guard : History Double -> Callback -> Prop} {Value : Type}

theorem holds_callWith
    {after : History Double -> Except (Flags × String) Value -> Prop}
    {history : History Double} {flags : Flags} {callback : Callback}
    {next : Reply Double -> Drill Double (Flags × String) Value}
    (guarded : guard history callback)
    (returned : forall reply, (next reply).Holds guard after (history ++ [(callback, .ok reply)]))
    (raised : forall problem,
      after (history ++ [(callback, .error problem)]) (.error (flags, problem))) :
    (callWith flags callback >>= next).Holds guard after history := by
  refine ⟨guarded, fun answer => ?_⟩
  cases answer with
  | ok reply => exact returned reply
  | error problem => exact raised problem

theorem holds_checkWith
    {after : History Double -> Except (Flags × String) Value -> Prop}
    {history : History Double} {flags : Flags} {checked : Except String Unit}
    {next : Unit -> Drill Double (Flags × String) Value}
    (passed : checked = .ok () -> (next ()).Holds guard after history)
    (failed : forall problem, after history (.error (flags, problem))) :
    (checkWith flags checked >>= next).Holds guard after history := by
  cases checked with
  | ok value => exact passed rfl
  | error problem => exact failed problem

theorem holds_callIf
    {condition : Prop} [Decidable condition] {callback : Callback} {history : History Double}
    {post : History Double -> Except String Unit -> Prop}
    (guarded : condition -> guard history callback)
    (called : forall answer, condition ->
      post (history ++ [(callback, answer)]) (answer.map fun _ => ()))
    (skipped : ¬condition -> post history (.ok ())) :
    (callIf condition callback : Drill Double String Unit).Holds guard post history := by
  rw [callIf]
  by_cases holds : condition
  · rw [if_pos holds]
    refine ⟨guarded holds, fun answer => ?_⟩
    have ends := called answer holds
    cases answer <;> exact ends
  · rw [if_neg holds]
    exact skipped holds

end Steps

/-- The `finally` clause before a loss. -/
theorem restoreServices_safe {history : History Double} (safe : ¬LossAttempted history)
    (stopped : Bool) :
    (restoreServices ⟨stopped, false, false⟩).Holds Guarded
      (fun history _ => Recovered history) history := by
  refine Dialogue.Holds.bind (holds_callIf (fun required => nomatch required.1)
    (fun _ required => nomatch required.1) fun _ => ?_)
  refine holds_callIf (fun _ lost => absurd lost safe) (fun answer _ => ?_) fun _ lost =>
    absurd lost safe
  exact fun lost => absurd lost (not_lossAttempted_append safe Callback.noConfusion answer)

/-- The `finally` clause between a loss and a restore. -/
theorem restoreServices_lost (history : History Double) :
    (restoreServices lossFlags).Holds Guarded (fun history _ => Recovered history) history := by
  refine Dialogue.Holds.bind (holds_callIf (fun _ => trivial) (fun answer _ => ?_)
    fun noLoss => absurd ⟨rfl, rfl⟩ noLoss)
  cases answer with
  | error problem => exact fun _ => restoreAttempted_last history _
  | ok reply =>
      have restored := restored_last history reply
      refine holds_callIf (fun _ _ => restored) (fun answer _ _ => ?_) fun _ _ => restored.attempted
      exact (restored.append Callback.noConfusion answer).attempted

/-- The `finally` clause behind a restore. -/
theorem restoreServices_restored {history : History Double} (restored : Restored history)
    (stopped : Bool) :
    (restoreServices ⟨stopped, true, true⟩).Holds Guarded
      (fun history _ => Recovered history) history := by
  refine Dialogue.Holds.bind (holds_callIf (fun required => nomatch required.2)
    (fun _ required => nomatch required.2) fun _ => ?_)
  refine holds_callIf (fun _ _ => restored) (fun answer _ _ => ?_) fun _ _ => restored.attempted
  exact (restored.append Callback.noConfusion answer).attempted

theorem finishDrill_failed {history : History Double} {flags : Flags} (problem : String)
    (cleaned : (restoreServices flags).Holds Guarded (fun history _ => Recovered history)
      history) :
    (finishDrill (.error (flags, problem)) : Drill Double String (Evidence Double)).Holds Guarded
      (fun history _ => Recovered history) history := by
  refine Dialogue.Holds.bind (cleaned.mono fun history result recovered => ?_)
  cases result <;> exact recovered

/-- The `try` statement, from a history without a loss and without a backup. -/
theorem drill_holds {history : History Double} (safe : ¬LossAttempted history)
    (noBackup : forall answer, (Callback.backupDatabase, answer) ∉ history) :
    (drill : Drill Double String (Evidence Double)).Holds Guarded
      (fun history _ => Recovered history) history := by
  have safeEnd : forall {history : History Double} (flags : Flags) (problem : String),
      flags.restoreRequired = false -> flags.databaseRestored = false ->
      ¬LossAttempted history -> (finishDrill (.error (flags, problem)) :
        Drill Double String (Evidence Double)).Holds Guarded
          (fun history _ => Recovered history) history := by
    rintro history ⟨stopped, _, _⟩ problem rfl rfl safe
    exact finishDrill_failed problem (restoreServices_safe safe stopped)
  have lostEnd : forall (history : History Double) (problem : String),
      (finishDrill (.error (lossFlags, problem)) :
        Drill Double String (Evidence Double)).Holds Guarded
          (fun history _ => Recovered history) history :=
    fun history problem => finishDrill_failed problem (restoreServices_lost history)
  refine Dialogue.Holds.recover (holds_callWith trivial (fun stopReply => ?_) fun problem =>
    safeEnd startFlags problem rfl rfl (not_lossAttempted_append safe Callback.noConfusion _))
  have safe : ¬LossAttempted (history ++ [(.stopMetastore, .ok stopReply)]) :=
    not_lossAttempted_append safe Callback.noConfusion _
  refine holds_callWith trivial (fun stateReply => ?_) fun problem =>
    safeEnd stoppedFlags problem rfl rfl (not_lossAttempted_append safe Callback.noConfusion _)
  have safe := not_lossAttempted_append safe
    (Callback.noConfusion : Callback.serviceState ≠ .injectCatalogLoss) (.ok stateReply)
  have stopped := (stopped_last history stopReply).append
    (Callback.noConfusion : Callback.serviceState ≠ .startMetastore) (.ok stateReply)
  refine holds_checkWith (fun _ => ?_) fun problem => safeEnd stoppedFlags problem rfl rfl safe
  refine holds_callWith trivial (fun backup => ?_) fun problem =>
    safeEnd stoppedFlags problem rfl rfl (not_lossAttempted_append safe Callback.noConfusion _)
  refine holds_checkWith (fun checked => ?_) fun problem =>
    safeEnd stoppedFlags problem rfl rfl (not_lossAttempted_append safe Callback.noConfusion _)
  have onlyBackup : forall answer, (Callback.backupDatabase, answer) ∉
      history ++ [(.stopMetastore, .ok stopReply)] ++ [(.serviceState, .ok stateReply)] := by
    intro answer member
    rcases List.mem_append.mp member with before | last
    · rcases List.mem_append.mp before with before | last
      · exact noBackup answer before
      · exact Callback.noConfusion (Prod.mk.inj (List.mem_singleton.mp last)).1
    · exact Callback.noConfusion (Prod.mk.inj (List.mem_singleton.mp last)).1
  -- from here on a loss may have been injected, so every end needs a restore
  refine holds_callWith ⟨_, backup, rfl, onlyBackup, stopped.append Callback.noConfusion _, checked⟩
    (fun injected => ?_) fun problem => lostEnd _ problem
  refine holds_callWith trivial (fun loss => ?_) fun problem => lostEnd _ problem
  refine holds_checkWith (fun _ => ?_) fun problem => lostEnd _ problem
  refine holds_callWith trivial (fun lossTopology => ?_) fun problem => lostEnd _ problem
  refine holds_checkWith (fun _ => ?_) fun problem => lostEnd _ problem
  refine holds_callWith trivial (fun restoreReply => ?_) fun problem => lostEnd _ problem
  have restored := restored_last (history ++ [(.stopMetastore, .ok stopReply)] ++
    [(.serviceState, .ok stateReply)] ++ [(.backupDatabase, .ok backup)] ++
    [(.injectCatalogLoss, .ok injected)] ++ [(.inspectCatalogLoss, .ok loss)] ++
    [(.serviceState, .ok lossTopology)]) restoreReply
  refine holds_callWith (fun _ => restored) (fun startReply => ?_) fun problem =>
    finishDrill_failed problem
      (restoreServices_restored (restored.append Callback.noConfusion _) true)
  refine Dialogue.Holds.bind ((restoreServices_restored
    (restored.append Callback.noConfusion (.ok startReply)) false).mono
      fun history result recovered => ?_)
  cases result <;> exact recovered

/-- The callbacks outside of the `try` statement. -/
def Harmless (callback : Callback) : Prop :=
  callback ∉ [.stopMetastore, .backupDatabase, .injectCatalogLoss, .restoreDatabase,
    .startMetastore]

theorem capturePhase_sends (python : Python Double) (name : String) :
    (capturePhase python name).Sends Harmless := by
  have harmless : forall callback, Harmless callback ->
      (call callback : Drill Double String (Reply Double)).Sends Harmless :=
    fun callback isHarmless => Dialogue.sends_query isHarmless
  refine (harmless _ (by unfold Harmless; decide)).bind fun topology => ?_
  refine (Dialogue.sends_attempt _).bind fun _ => ?_
  refine (harmless _ (by unfold Harmless; decide)).bind fun catalog => ?_
  refine (Dialogue.sends_attempt _).bind fun _ => Dialogue.Sends.bind ?_ fun _ => trivial
  refine (harmless _ (by unfold Harmless; decide)).bind fun _ => ?_
  refine Dialogue.Sends.bind ((harmless _ (by unfold Harmless; decide)).lastly
    ((harmless _ (by unfold Harmless; decide)).bind fun _ => trivial)) fun result => ?_
  rcases result.rows with _ | ⟨row, _ | ⟨second, rest⟩⟩
  · trivial
  · exact (Dialogue.sends_attempt _).bind fun _ => trivial
  · trivial

theorem guarded_of_harmless (history : History Double) {callback : Callback}
    (harmless : Harmless callback) : Guarded history callback := by
  cases callback <;> first | trivial | exact absurd harmless (by unfold Harmless; decide)

theorem Harmless.ne {callback other : Callback} (harmless : Harmless callback)
    (harms : ¬Harmless other) : callback ≠ other := by
  rintro rfl
  exact harms harmless

/-- The drill from its start: what it guards, and what holds when it has ended. -/
theorem run_holds (python : Python Double) (security : Option (Document Double)) :
    (runMetadataDbRecovery python security).Holds Guarded (fun history _ => Recovered history)
      [] := by
  have noLoss : ¬Harmless .injectCatalogLoss := by
    unfold Harmless
    decide
  have noBackup : ¬Harmless .backupDatabase := by
    unfold Harmless
    decide
  have baseline := (capturePhase_sends python "baseline").holds
    (fun history _ _ => guarded_of_harmless history)
    (fun (history : History Double) callback answer
        (quiet : forall other reply, (other, reply) ∈ history -> Harmless other) harmless other
        reply member => (List.mem_append.mp member).elim (quiet other reply) fun last =>
          (Prod.mk.inj (List.mem_singleton.mp last)).1 ▸ harmless)
    (fun _ _ member => absurd member List.not_mem_nil)
  refine Dialogue.Holds.bind (baseline.mono fun history result quiet => ?_)
  have safe : ¬LossAttempted history := fun ⟨answer, member⟩ => noLoss (quiet _ answer member)
  have before : forall answer, (Callback.backupDatabase, answer) ∉ history :=
    fun answer member => noBackup (quiet _ answer member)
  cases result with
  | error problem => exact fun lost => absurd lost safe
  | ok baseline =>
      have monotonicSafe := fun answer => not_lossAttempted_append safe
        (Callback.noConfusion : Callback.monotonic ≠ .injectCatalogLoss) answer
      refine Dialogue.holds_query_bind trivial (fun started => ?_) fun problem lost =>
        absurd lost (monotonicSafe _)
      refine Dialogue.Holds.bind ((drill_holds (monotonicSafe _) ?_).mono
        fun history result recovered => ?_)
      · intro answer member
        rcases List.mem_append.mp member with earlier | last
        · exact before answer earlier
        · exact Callback.noConfusion (Prod.mk.inj (List.mem_singleton.mp last)).1
      · cases result with
        | error problem => exact recovered
        | ok evidence =>
            refine Dialogue.Sends.holds ?_ (fun history _ _ => guarded_of_harmless history)
              (fun history callback answer recovered harmless =>
                Recovered.append recovered (harmless.ne noLoss) answer) recovered
            refine (capturePhase_sends python "recovery").bind fun recovery => ?_
            refine Dialogue.Sends.bind (Dialogue.sends_query (by unfold Harmless; decide))
              fun finished => ?_
            refine Dialogue.Sends.bind (Dialogue.sends_query (by unfold Harmless; decide))
              fun collected => ?_
            exact (Dialogue.sends_attempt _).bind fun _ => trivial

/-! ## Runs of the drill -/

/-- What a run of the drill did, by what the callbacks did. -/
abbrev DrillRun (Double : Type) := Dialogue.Talk Callback (Answer Double) String (Report Double)

def drillRun (python : Python Double) (security : Option (Document Double))
    (answers : List (Answer Double)) : DrillRun Double :=
  (runMetadataDbRecovery python security).run answers

/-- A loss is injected only when the metastore is stopped and a backup was taken that the
report's validation accepts. -/
def LossGuarded (talk : DrillRun Double) : Prop :=
  forall before, talk.Sent before .injectCatalogLoss -> Stopped before ∧ BackedUp before

/-- Behind a loss the metastore is started only after a restore, and the drill does not end
before a restore was attempted. -/
structure RestoreOrdered (talk : DrillRun Double) : Prop where
  started : forall before, talk.Sent before .startMetastore ->
    LossAttempted before -> Restored before
  recovered : forall result, talk.result = some result ->
    LossAttempted talk.exchanges -> RestoreAttempted talk.exchanges

/-- The backup on which a loss is injected lists the required tables. -/
def BackupListsTables (talk : DrillRun Double) : Prop :=
  forall before reply, talk.Sent before .injectCatalogLoss ->
    (Callback.backupDatabase, .ok reply) ∈ before -> listsRequiredTables reply.value = true

theorem restore_ordered (python : Python Double) (security : Option (Document Double))
    (answers : List (Answer Double)) : RestoreOrdered (drillRun python security answers) where
  started := fun _ sent => (run_holds python security).sent answers sent
  recovered := fun _ ended => (run_holds python security).ended answers ended

/-- The code checks all that is demanded of a backup but its tables. -/
theorem lossGuarded_iff (python : Python Double) (security : Option (Document Double))
    (answers : List (Answer Double)) :
    LossGuarded (drillRun python security answers) ↔
      BackupListsTables (drillRun python security answers) := by
  have guarded : forall before,
      (drillRun python security answers).Sent before .injectCatalogLoss ->
        Guarded before .injectCatalogLoss :=
    fun before sent => (run_holds python security).sent answers sent
  constructor
  · rintro lossGuarded before reply sent member
    obtain ⟨earlier, backup, rfl, onlyBackup, _⟩ := guarded before sent
    have isBackup : forall other,
        (Callback.backupDatabase, .ok other) ∈ earlier ++ [(.backupDatabase, .ok backup)] ->
          other = backup := by
      intro other member
      rcases List.mem_append.mp member with before | last
      · exact absurd before (onlyBackup _)
      · exact Except.ok.inj (Prod.mk.inj (List.mem_singleton.mp last)).2
    obtain ⟨accepted, isAccepted, demanded⟩ := (lossGuarded _ sent).2
    rw [isBackup reply member, ← isBackup accepted isAccepted]
    exact demanded.2
  · intro lists before sent
    obtain ⟨earlier, backup, rfl, _, stopped, checked⟩ := guarded before sent
    have member : (Callback.backupDatabase, .ok backup) ∈
        earlier ++ [(Callback.backupDatabase, .ok backup)] :=
      List.mem_append_right _ List.mem_cons_self
    exact ⟨stopped, backup, member, checked, lists _ backup sent member⟩

/-- A run keeps the whole order exactly when the backup on which it injects a loss lists the
required tables. -/
theorem recovery_ordered_iff (python : Python Double) (security : Option (Document Double))
    (answers : List (Answer Double)) :
    (LossGuarded (drillRun python security answers) ∧
      RestoreOrdered (drillRun python security answers)) ↔
        BackupListsTables (drillRun python security answers) := by
  rw [lossGuarded_iff]
  exact and_iff_left (restore_ordered python security answers)

/-! ## A sample -/

def samplePython : Python Unit where
  same := fun _ _ => true
  isDigits := fun _ => true
  duration := fun _ _ => .null
  isDuration := fun _ => true

def sampleHash : Document Unit :=
  .string (List.replicate 64 (char '0'))

def sampleTopology (metastoreRunning : Bool) : Document Unit :=
  .object [(text "metastore_running", .bool metastoreRunning), (text "database_running", .bool true),
    (text "metastore_container_id", sampleHash), (text "database_container_id", sampleHash)]

def sampleManifest : Document Unit :=
  .object [(text "metastore_schema_version", .string (text "4.0.0")),
    (text "entry_count", .int 1), (text "entries_sha256", sampleHash),
    (text "required_tables", .array (requiredTables.map .string))]

/-- The evidence of a backup without any table. -/
def sampleBackup : Document Unit :=
  .object [(text "format", .string (text "postgresql-custom")),
    (text "file_name", .string (text "metastore.dump")), (text "size_bytes", .int 1),
    (text "sha256", sampleHash), (text "toc_entries", .int 1),
    (text "required_tables", .array [])]

def sampleReply (value : Document Unit) : Reply Unit where
  value
  rows := [.object [(text "row_count", .int 1), (text "snapshot_id", .string (text "1"))]]
  queryId := .string (text "query")

/-- The answers up to that of `backup_database`. -/
def sampleAnswers : List (Answer Unit) :=
  [sampleTopology true, sampleManifest, .null, .null, .null, .null, .null, sampleTopology false,
    sampleBackup].map fun value => .ok (sampleReply value)

/-- On a backup without any table the loss is injected. -/
theorem empty_backup_not_refused :
    ¬(forall (python : Python Unit) (security : Option (Document Unit))
        (answers : List (Answer Unit)),
      LossGuarded (drillRun python security answers) ∧
        RestoreOrdered (drillRun python security answers)) := by
  intro always
  have guarded := (always samplePython none sampleAnswers).1
  have pending : (drillRun samplePython none sampleAnswers).pending = some .injectCatalogLoss := by
    decide +kernel
  have last : (drillRun samplePython none sampleAnswers).exchanges.getLast? =
      some (.backupDatabase, .ok (sampleReply sampleBackup)) := rfl
  have lists := (lossGuarded_iff _ _ _).mp guarded _ _ (.inr ⟨rfl, pending⟩)
    (List.mem_of_getLast? last)
  exact absurd lists (by decide +kernel)

end MetadataDbRecovery
end Pipeline
end LakehouseOps
