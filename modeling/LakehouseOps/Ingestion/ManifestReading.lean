import LakehouseOps.Library.Datetime
import LakehouseOps.Library.TaskGroups
import LakehouseOps.Ingestion.BatchDiscovery
import LakehouseOps.Ingestion.ManifestBody

/-!
# Reading of manifests

The planner reads every manifest of a listing, on one thread or in groups on several. It
checks the commit marker, the moment of the source and the inventory of the tables.
-/

namespace LakehouseOps
namespace Ingestion
namespace ManifestReading

open Library Library.Fallible BatchDiscovery

variable {Problem : Type}

/-! ## The checks of a manifest -/

/-- What `get_object` returns; the body as its reads and its `close` come to. -/
structure ManifestResponse (Problem : Type) where
  metadata : List (String × String)
  body : Except Problem Bytes

/-- The parts of the standard library that read a manifest. -/
structure ManifestReaders where
  readers : Readers
  /-- `datetime.fromisoformat(text.replace("Z", "+00:00"))`, where it returns. -/
  fromIsoFormat : String -> Option Datetime

/-- `manifest["config"]`, where it is an object -/
def configOf : Json -> Option Entries
  | .object manifest =>
      match manifest.lookup "config" with
      | some (.object config) => some config
      | _ => none
  | _ => none

/-- `manifest["config"]["batch_at"]`, as a datetime -/
def batchAtOf (readers : ManifestReaders) (manifest : Json) : Option Datetime :=
  match (configOf manifest).bind fun config => config.lookup "batch_at" with
  | some (.string text) => readers.fromIsoFormat text
  | _ => none

/-- The moment of the source, for a datetime with a zone. -/
def sourceInstant (readers : ManifestReaders) (manifest : Json) : Option Instant :=
  match batchAtOf readers manifest with
  | some batchAt => if batchAt.aware = true then batchAt.toUtc else none
  | none => none

/-- One turn of the loop of `_valid_table_inventory`. -/
def isTableEntry (name : String) : Json -> Bool
  | .object details =>
      match details.lookup "file", details.lookup "rows", details.lookup "sha256" with
      | some (.string file), some (.int rows), some (.string sha256) =>
          file = tableFile name ∧ 1 ≤ rows ∧ isHex 64 sha256 = true
      | _, _, _ => false
  | _ => false

/-- `_valid_table_inventory` -/
def validTableInventory : Option Json -> Bool
  | some (.object tables) =>
      hasRequiredTables tables &&
        tables.all fun table => (tables.lookup table.1).any (isTableEntry table.1)
  | _ => false

/-- The metadata of a manifest that commits a batch. -/
def IsMarker (metadata : List (String × String)) (batchId checksum : String) : Prop :=
  metadata.lookup "commit-marker" = some "true" ∧ metadata.lookup "source" = some "commerce" ∧
    metadata.lookup "batch-id" = some batchId ∧ metadata.lookup "sha256" = some checksum

instance isMarkerDecidable (metadata : List (String × String)) (batchId checksum : String) :
    Decidable (IsMarker metadata batchId checksum) :=
  inferInstanceAs (Decidable (_ ∧ _))

/-- The last checks of the document. -/
def isManifest (batchId : String) : Json -> Bool
  | .object manifest =>
      match manifest.lookup "schema_version", manifest.lookup "batch_id" with
      | some (.int schemaVersion), some (.string recorded) =>
          schemaVersion = 1 ∧ recorded = batchId ∧
            validTableInventory (manifest.lookup "tables") = true
      | _, _ => false
  | _ => false

/-- `manifest["config"].get("source_semantics")`, where it is a text -/
def sourceSemanticsOf (manifest : Json) : Option String :=
  match (configOf manifest).bind fun config => config.lookup "source_semantics" with
  | some (.string semantics) => some semantics
  | _ => none

/-- `str.removesuffix` -/
def removeSuffix (text suffix : String) : String :=
  if suffix.toList.isSuffixOf text.toList = true then
    String.ofList (text.toList.take (text.toList.length - suffix.toList.length))
  else text

def invalidManifest (key : String) : DiscoveryError Problem :=
  .batch ⟨"invalid commerce manifest: " ++ key⟩

def invalidMarker (key : String) : DiscoveryError Problem :=
  .batch ⟨"invalid commerce commit marker: " ++ key⟩

def ofReadError : ManifestBody.ReadError Problem -> DiscoveryError Problem
  | .raised problem => .raised problem
  | .batch error => .batch error

/-- The checks of the body of a manifest. -/
def parseManifest (readers : ManifestReaders) (bucketName : String) (entry : ManifestEntry)
    (body : Bytes) : Except (DiscoveryError Problem) CommerceBatch :=
  match readers.readers.loads body with
  | none => .error (invalidManifest entry.key)
  | some manifest =>
      match sourceInstant readers manifest with
      | none => .error (invalidManifest entry.key)
      | some batchAt => do
          reject (isManifest entry.batchId manifest = false) (invalidManifest entry.key)
          return {
            batchId := entry.batchId
            batchAt
            manifestSha256 := readers.readers.sha256 body
            path := "s3://" ++ bucketName ++ "/" ++ removeSuffix entry.key "manifest.json"
            committedAt := entry.committedAt
            sourceSemantics := sourceSemanticsOf manifest }

/-- `_read_manifest` -/
def readManifest (readers : ManifestReaders) (bucketName : String) (entry : ManifestEntry)
    (answer : Except Problem (ManifestResponse Problem)) :
    Except (DiscoveryError Problem) CommerceBatch := do
  let response <- answer.mapError .raised
  let body <- (ManifestBody.checkSize entry.key response.body).mapError ofReadError
  reject (¬IsMarker response.metadata entry.batchId (readers.readers.sha256 body))
    (invalidMarker entry.key)
  parseManifest readers bucketName entry body

/-! ## Discovery on several threads -/

/-- `CommerceBatchPlanner`, as far as it discovers batches. -/
structure Planner where
  readers : ManifestReaders
  bucketName : String
  manifestReadWorkers : Nat
  admitted : 1 ≤ manifestReadWorkers ∧ manifestReadWorkers ≤ 8

variable (planner : Planner)

/-- The objects of the bucket by their keys. -/
abbrev Store (Problem : Type) := String -> Except Problem (ManifestResponse Problem)

def Planner.read (store : Store Problem) (entry : ManifestEntry) :
    Except (DiscoveryError Problem) CommerceBatch :=
  readManifest planner.readers planner.bucketName entry (store entry.key)

/-- The reads as the executor gets them. -/
def Planner.reads (store : Store Problem) (keys : List ManifestEntry) :
    TaskGroups ManifestEntry (DiscoveryError Problem) CommerceBatch where
  tasks := keys
  workers := planner.manifestReadWorkers
  positive := planner.admitted.1
  compute := planner.read store

/-- The manifests one after the other, in the order of the listing. -/
def Planner.readInOrder (store : Store Problem) (keys : List ManifestEntry) :
    Except (DiscoveryError Problem) (List CommerceBatch) :=
  keys.mapM (planner.read store)

/-- What the reads come to, if they end in the given schedule. -/
def Planner.readAll (store : Store Problem) (keys : List ManifestEntry)
    (schedule : List TaskEvent) :
    Option (Except (DiscoveryError Problem) (List CommerceBatch)) :=
  if planner.manifestReadWorkers = 1 ∨ keys.length < 2 then some (planner.readInOrder store keys)
  else ((planner.reads store keys).machine.run schedule).outcome

/-- `discover`, from what the listing has come to -/
def Planner.discover (store : Store Problem) (schedule : List TaskEvent) :
    Except (DiscoveryError Problem) (List ManifestEntry) ->
      Option (Except (DiscoveryError Problem) (List CommerceBatch))
  | .error problem => some (.error problem)
  | .ok keys => (planner.readAll store keys schedule).map fun read =>
      read.map Ingestion.discover

/-- `discover` without threads -/
def Planner.discoverInOrder (store : Store Problem)
    (listed : Except (DiscoveryError Problem) (List ManifestEntry)) :
    Except (DiscoveryError Problem) (List CommerceBatch) := do
  let keys <- listed
  let read <- planner.readInOrder store keys
  return Ingestion.discover read

/-- Discovery on several threads, against discovery on one. -/
structure SameAsInOrder (store : Store Problem)
    (listed : Except (DiscoveryError Problem) (List ManifestEntry)) (schedule : List TaskEvent) :
    Prop where
  outcome : forall outcome, planner.discover store schedule listed = some outcome ->
    outcome = planner.discoverInOrder store listed
  /-- The threads never block each other for good. -/
  ends : Exists fun later => planner.discover store (schedule ++ later) listed =
    some (planner.discoverInOrder store listed)
  /-- No read begins in a group after that of a failing read. -/
  noLaterGroup : forall keys, listed = .ok keys -> forall position failing entry problem,
    position ∈ ((planner.reads store keys).machine.run schedule).started ->
      keys[failing]? = some entry -> planner.read store entry = .error problem ->
        position / planner.manifestReadWorkers ≤ failing / planner.manifestReadWorkers

theorem discoverInOrder_ok (store : Store Problem) (keys : List ManifestEntry) :
    planner.discoverInOrder store (.ok keys) =
      (planner.readInOrder store keys).map Ingestion.discover := by
  unfold Planner.discoverInOrder
  rw [ok_bind]
  cases planner.readInOrder store keys <;> rfl

/-- Whatever the listing and the objects are, however many threads are admitted, and in
whatever order the reads end, discovery is that of one read after the other. -/
theorem parallel_discovery_same (store : Store Problem)
    (listed : Except (DiscoveryError Problem) (List ManifestEntry)) (schedule : List TaskEvent) :
    SameAsInOrder planner store listed schedule := by
  constructor
  · intro outcome isOutcome
    cases listed with
    | error problem => exact (Option.some.inj isOutcome).symm
    | ok keys =>
        rw [discoverInOrder_ok]
        obtain ⟨read, isRead, rfl⟩ := Option.map_eq_some_iff.mp isOutcome
        refine congrArg (Except.map Ingestion.discover) ?_
        unfold Planner.readAll at isRead
        by_cases single : planner.manifestReadWorkers = 1 ∨ keys.length < 2
        · rw [if_pos single] at isRead
          exact (Option.some.inj isRead).symm
        · rw [if_neg single] at isRead
          exact (TaskGroups.kept_run schedule).outcome read isRead
  · cases listed with
    | error problem => exact ⟨[], rfl⟩
    | ok keys =>
        have kept : (planner.reads store keys).Kept
            ((planner.reads store keys).machine.run schedule) := TaskGroups.kept_run schedule
        obtain ⟨later, ends⟩ := kept.completes
        refine ⟨later, ?_⟩
        rw [discoverInOrder_ok]
        change Option.map _ (planner.readAll store keys (schedule ++ later)) =
          Option.map _ (some (planner.readInOrder store keys))
        refine congrArg _ ?_
        unfold Planner.readAll
        by_cases single : planner.manifestReadWorkers = 1 ∨ keys.length < 2
        · rw [if_pos single]
        · rw [if_neg single, Machine.run_append]
          exact ends
  · rintro keys _ position failing entry problem hasStarted isEntry fails
    exact (TaskGroups.kept_run schedule).started_bounded hasStarted isEntry fails

end ManifestReading
end Ingestion
end LakehouseOps
