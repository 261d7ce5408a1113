import LakehouseOps.Ingestion.LandingSafety
import LakehouseOps.Ingestion.ManifestReading

/-!
# Manifests from the landing zone to the bronze layer

Three parts of the platform check a manifest: the landing zone before it stores it, the
planner when it lists the batches, and the loader of the bronze layer before it reads the
tables. What the landing zone stores is accepted by both of the others, or by neither.
-/

namespace LakehouseOps
namespace Ingestion
namespace CommerceBronze

open Library Library.Fallible ManifestReading BatchDiscovery

/-! ## The loader -/

inductive BronzeError
  | bronze (message : String)
  /-- `AttributeError` -/
  | attribute
  /-- `OverflowError` -/
  | overflow

/-- A directory of a batch; a file that cannot be read is missing. -/
structure SourceDirectory where
  path : String
  name : String
  files : String -> Option Bytes

structure CommerceTableFile where
  name : String
  path : String
  rows : Int
  sha256 : String
  deriving DecidableEq

structure CommerceBatchDirectory where
  batchId : String
  batchAt : Instant
  tables : List CommerceTableFile
  deriving DecidableEq

/-- A value that is an `int`, with its text; a Boolean is one. -/
def rowsOf : Json -> Option (Int × String)
  | .int rows => some (rows, toString rows)
  | .bool true => some (1, "True")
  | .bool false => some (0, "False")
  | _ => none

def invalidEntry (name : String) : BronzeError :=
  .bronze ("invalid manifest entry for table: " ++ name)

def invalidChecksum (name : String) : BronzeError :=
  .bronze ("invalid manifest checksum for table: " ++ name)

/-- The part of `_verify_table` that reads the file. -/
def verifyTableFile (readers : Readers) (directory : SourceDirectory) (name checksum : String)
    (rows : Int × String) : Except BronzeError CommerceTableFile :=
  let path := directory.path ++ "/" ++ tableFile name
  match directory.files (tableFile name) with
  | none => .error (.bronze ("commerce table is unreadable: " ++ path))
  | some body => do
      let observedRows := lineCount body
      reject (readers.sha256 body ≠ checksum)
        (.bronze ("commerce table checksum mismatch: " ++ name))
      reject ((observedRows : Int) ≠ rows.1)
        (.bronze (s!"commerce table row count mismatch: {name} expected {rows.2}, observed " ++
          s!"{observedRows}"))
      return { name, path, rows := rows.1, sha256 := checksum }

/-- `_verify_table` -/
def verifyTable (readers : Readers) (directory : SourceDirectory) (name : String) :
    Option Json -> Except BronzeError CommerceTableFile
  | some (.object details) =>
      match details.lookup "file", (details.lookup "rows").bind rowsOf with
      | some (.string file), some rows => do
          reject (file ≠ tableFile name ∨ rows.1 < 1) (invalidEntry name)
          match details.lookup "sha256" with
          | some (.string checksum) => do
              reject (isHex 64 checksum = false) (invalidChecksum name)
              verifyTableFile readers directory name checksum rows
          | _ => .error (invalidChecksum name)
      | _, _ => .error (invalidEntry name)
  | _ => .error (invalidEntry name)

def invalidBatchAt : BronzeError :=
  .bronze "commerce manifest batch_at is invalid"

/-- The datetime of `manifest["config"]["batch_at"]`. -/
def parseBatchAt (readers : ManifestReaders) (manifest : Entries) :
    Except BronzeError Datetime :=
  match manifest.lookup "config" with
  | some (.object config) =>
      match config.lookup "batch_at" with
      | none => .error invalidBatchAt
      | some (.string text) =>
          match readers.fromIsoFormat text with
          | none => .error invalidBatchAt
          | some batchAt => .ok batchAt
      | some _ => .error .attribute
  | _ => .error invalidBatchAt

/-- The tables of a manifest, where it has the required ones. -/
def inventory (manifest : Entries) : Except BronzeError Entries :=
  match manifest.lookup "tables" with
  | some (.object tables) =>
      if hasRequiredTables tables = true then .ok tables
      else .error (.bronze "commerce manifest must contain exactly four required tables")
  | _ => .error (.bronze "commerce manifest must contain exactly four required tables")

/-- The document has the schema and the id of the batch. -/
def hasIdentity (manifest : Entries) (expectedBatchId : String) : Bool :=
  match manifest.lookup "schema_version", manifest.lookup "batch_id" with
  | some (.int schemaVersion), some (.string batchId) =>
      schemaVersion = 1 ∧ batchId = expectedBatchId
  | _, _ => false

/-- The part of `load_commerce_batch` after the manifest is loaded. -/
def loadDocument (readers : ManifestReaders) (directory : SourceDirectory)
    (expectedBatchId : String) : Json -> Except BronzeError CommerceBatchDirectory
  | .object manifest => do
      reject (hasIdentity manifest expectedBatchId = false)
        (.bronze "commerce manifest identity is invalid")
      let tables <- inventory manifest
      let batchAt <- parseBatchAt readers manifest
      reject (batchAt.aware = false)
        (.bronze "commerce manifest batch_at must include a timezone")
      let verified <- requiredTables.mapM fun name =>
        verifyTable readers.readers directory name (tables.lookup name)
      match batchAt.toUtc with
      | none => .error .overflow
      | some instant => .ok { batchId := expectedBatchId, batchAt := instant, tables := verified }
  | _ => .error .attribute

/-- `load_commerce_batch` -/
def loadCommerceBatch (readers : ManifestReaders) (directory : SourceDirectory)
    (expectedBatchId : String) (expectedManifestSha256 : Option String) :
    Except BronzeError CommerceBatchDirectory := do
  reject (isHex 16 expectedBatchId = false)
    (.bronze "batch_id must contain 16 lowercase hexadecimal characters")
  reject (directory.name ≠ "batch_id=" ++ expectedBatchId)
    (.bronze "batch directory does not match batch_id")
  match directory.files "manifest.json" with
  | none => .error (.bronze "commerce manifest is unreadable")
  | some body => do
      reject (expectedManifestSha256.any fun expected => readers.readers.sha256 body ≠ expected)
        (.bronze "commerce manifest differs from the selected S3 commit")
      match readers.readers.loads body with
      | none => .error (.bronze "commerce manifest is unreadable")
      | some document => loadDocument readers directory expectedBatchId document

/-! ## What the landing zone stores -/

section Landed

variable (zone : LandingZone) (fromIsoFormat : String -> Option Datetime)

/-- One library reads for all three. -/
def zoneReaders : ManifestReaders where
  readers := zone.readers
  fromIsoFormat

/-- The moment of the source of a manifest, from its bytes. -/
def landedInstant (body : Bytes) : Option Instant :=
  (zone.readers.loads body).bind (sourceInstant (zoneReaders zone fromIsoFormat))

/-- The manifest of a batch in a listing. -/
def landedEntry (batchId : String) (object : StoredObject) : ManifestEntry where
  batchId
  key := zone.manifestKey batchId
  committedAt := some object.lastModified

/-- An object as `get_object` returns it. -/
def landedResponse (Problem : Type) (object : StoredObject) : ManifestResponse Problem where
  metadata := object.metadata
  body := .ok object.body

/-- What the planner makes of a manifest of the bucket. -/
def readLanded (Problem : Type) (batchId : String) (object : StoredObject) :
    Except (DiscoveryError Problem) CommerceBatch :=
  readManifest (zoneReaders zone fromIsoFormat) zone.bucketName (landedEntry zone batchId object)
    (.ok (landedResponse Problem object))

/-- The directory of a batch, with the objects of the bucket as its files. -/
def syncedDirectory (bucket : Bucket) (root batchId : String) : SourceDirectory where
  path := root ++ "/batch_id=" ++ batchId
  name := "batch_id=" ++ batchId
  files name := (bucket.lookup (zone.objectKey batchId name)).map StoredObject.body

/-- What the loader makes of the objects of a batch that the planner has selected. -/
def loadLanded (bucket : Bucket) (root batchId : String) (object : StoredObject) :
    Except BronzeError CommerceBatchDirectory :=
  loadCommerceBatch (zoneReaders zone fromIsoFormat) (syncedDirectory zone bucket root batchId)
    batchId (some (zone.readers.sha256 object.body))

end Landed

variable {Problem : Type} {zone : LandingZone} {contents : Set Bytes} {bucket : Bucket}
variable {batchId : String} {object : StoredObject} {fixture : Fixture}

/-- A required table of a stored fixture: its entry in the manifest, and its object. -/
theorem table_of_covered (covered : Covered zone contents bucket batchId object fixture)
    {name : String} (required : name ∈ requiredTables) :
    Exists fun table => TableVerified zone contents fixture.manifest table ∧ table.name = name ∧
      Exists fun stored => bucket.lookup (zone.tableKey batchId name) = some stored ∧
        stored.body = table.content := by
  obtain ⟨table, member, isName⟩ := covered.verified.table_of_required required
  obtain ⟨stored, present, body⟩ := covered.tables table member
  refine ⟨table, covered.verified.tables table member, isName, stored, ?_, body⟩
  rw [← covered.batch, ← isName]
  exact present

theorem requiredTables_of_mem {tables : Entries} {name : String}
    (required : hasRequiredTables tables = true) (member : name ∈ tables.map Prod.fst) :
    name ∈ requiredTables := by
  obtain ⟨entry, isEntry, rfl⟩ := List.mem_map.mp member
  exact of_decide_eq_true (List.all_eq_true.mp (Bool.and_eq_true_iff.mp required).1 entry isEntry)

/-- The planner accepts the inventory of a manifest that was stored. -/
theorem validTableInventory_landed (covered : Covered zone contents bucket batchId object fixture)
    (hex : forall body, isHex 64 (zone.readers.sha256 body) = true) :
    validTableInventory (some (.object fixture.manifest.tables)) = true := by
  obtain ⟨json, _, accepted⟩ := covered.verified.manifest.accepted
  refine Bool.and_eq_true_iff.mpr ⟨accepted.tables, List.all_eq_true.mpr fun entry member => ?_⟩
  obtain ⟨table, verified, isName, _⟩ := table_of_covered covered
    (requiredTables_of_mem accepted.tables (List.mem_map_of_mem member))
  obtain ⟨⟨details, isDetails, file, rows, sha256⟩, positive, _⟩ := verified.entry
  rw [isName] at isDetails file
  have isHash : isHex 64 table.entry.sha256 = true := verified.checksum ▸ hex table.content
  rw [isDetails, Option.any_some, isTableEntry, file, rows, sha256]
  exact decide_eq_true ⟨rfl, positive, isHash⟩

theorem isManifest_landed (covered : Covered zone contents bucket batchId object fixture)
    (hex : forall body, isHex 64 (zone.readers.sha256 body) = true) {json : Json}
    (accepted : ManifestAccepted json fixture.manifest) : isManifest batchId json = true := by
  obtain ⟨⟨entries, rfl, schema, isBatch, tables⟩, _, _⟩ := accepted
  rw [isManifest, schema, isBatch, tables]
  exact decide_eq_true ⟨rfl, covered.batch, validTableInventory_landed covered hex⟩

/-- Size and commit marker of a stored manifest pass. -/
theorem readLanded_eq (covered : Covered zone contents bucket batchId object fixture)
    (fromIsoFormat : String -> Option Datetime) :
    readLanded zone fromIsoFormat Problem batchId object =
      parseManifest (zoneReaders zone fromIsoFormat) zone.bucketName
        (landedEntry zone batchId object) object.body := by
  have isMarker : IsMarker object.metadata batchId (zone.readers.sha256 object.body) := by
    rw [covered.metadata]
    exact ⟨rfl, rfl, rfl, rfl⟩
  have size : (ManifestBody.checkSize (zone.manifestKey batchId) (.ok object.body) :
      Except (ManifestBody.ReadError Problem) Bytes) = .ok object.body := by
    refine if_neg (Nat.not_lt.mpr ?_)
    rw [covered.body]
    exact covered.verified.manifest.size
  change ((ManifestBody.checkSize (zone.manifestKey batchId) (.ok object.body) :
    Except (ManifestBody.ReadError Problem) Bytes).mapError ofReadError >>= _) = _
  rw [size]
  exact reject_bind_of_not (not_not.mpr isMarker)

/-- A stored manifest as the planner lists it. -/
def landedBatch (zone : LandingZone) (batchId : String) (object : StoredObject)
    (manifest : Json) (batchAt : Instant) : CommerceBatch where
  batchId
  batchAt
  manifestSha256 := zone.readers.sha256 object.body
  path := "s3://" ++ zone.bucketName ++ "/" ++
    removeSuffix (zone.manifestKey batchId) "manifest.json"
  committedAt := some object.lastModified
  sourceSemantics := sourceSemanticsOf manifest

/-- The planner asks no more of a stored manifest than the moment of its source. -/
theorem readLanded_cases (Problem : Type)
    (covered : Covered zone contents bucket batchId object fixture)
    (hex : forall body, isHex 64 (zone.readers.sha256 body) = true)
    (fromIsoFormat : String -> Option Datetime) :
    (landedInstant zone fromIsoFormat object.body = none ∧
      readLanded zone fromIsoFormat Problem batchId object =
        .error (invalidManifest (zone.manifestKey batchId))) ∨
    Exists fun manifest => Exists fun instant =>
      landedInstant zone fromIsoFormat object.body = some instant ∧
        readLanded zone fromIsoFormat Problem batchId object =
          .ok (landedBatch zone batchId object manifest instant) := by
  obtain ⟨json, loads, accepted⟩ := covered.verified.manifest.accepted
  rw [← covered.body] at loads
  rw [readLanded_eq covered]
  unfold landedInstant parseManifest zoneReaders
  dsimp only
  rw [loads, Option.bind_some]
  dsimp only
  cases isInstant : sourceInstant { readers := zone.readers, fromIsoFormat } json with
  | none => exact Or.inl ⟨rfl, rfl⟩
  | some instant =>
      refine Or.inr ⟨json, instant, rfl, ?_⟩
      exact reject_bind_of_not (Bool.not_eq_false _ ▸ isManifest_landed covered hex accepted)

/-- A table file is as its object in the bucket is. -/
def TableLoaded (zone : LandingZone) (bucket : Bucket) (batchId name : String)
    (file : CommerceTableFile) : Prop :=
  file.name = name ∧ Exists fun stored =>
    bucket.lookup (zone.tableKey batchId name) = some stored ∧
      zone.readers.sha256 stored.body = file.sha256 ∧
      (lineCount stored.body : Int) = file.rows

theorem verifyTable_landed (covered : Covered zone contents bucket batchId object fixture)
    (hex : forall body, isHex 64 (zone.readers.sha256 body) = true) (root : String)
    {name : String} (required : name ∈ requiredTables) :
    Exists fun file => verifyTable zone.readers (syncedDirectory zone bucket root batchId) name
        (fixture.manifest.tables.lookup name) = .ok file ∧
      TableLoaded zone bucket batchId name file := by
  obtain ⟨table, verified, rfl, stored, present, body⟩ := table_of_covered covered required
  obtain ⟨⟨details, isDetails, file, rows, sha256⟩, positive, _⟩ := verified.entry
  have isHash : isHex 64 table.entry.sha256 = true := verified.checksum ▸ hex table.content
  have isFile : (syncedDirectory zone bucket root batchId).files (tableFile table.name) =
      some table.content := by
    change (bucket.lookup (zone.tableKey batchId table.name)).map StoredObject.body = _
    rw [present, Option.map_some, body]
  refine ⟨{
    name := table.name
    path := (syncedDirectory zone bucket root batchId).path ++ "/" ++ tableFile table.name
    rows := table.entry.rows
    sha256 := table.entry.sha256 }, ?_, rfl, stored, present, ?_, ?_⟩
  · rw [isDetails, verifyTable, file, rows, sha256]
    refine (reject_bind_of_not ?_).trans ((reject_bind_of_not ?_).trans ?_)
    · exact not_or.mpr ⟨not_not.mpr rfl, Int.not_lt.mpr positive⟩
    · exact Bool.not_eq_false _ ▸ isHash
    · rw [verifyTableFile, isFile]
      exact (reject_bind_of_not (not_not.mpr verified.checksum)).trans
        (reject_bind_of_not (not_not.mpr verified.rows))
  · rw [body]
    exact verified.checksum
  · rw [body]
    exact verified.rows

/-- The loader and the planner read the same datetime off a document. -/
theorem parseBatchAt_toOption (readers : ManifestReaders) (manifest : Entries) :
    (parseBatchAt readers manifest).toOption = batchAtOf readers (.object manifest) := by
  unfold parseBatchAt batchAtOf configOf
  dsimp only
  cases manifest.lookup "config" with
  | none => rfl
  | some config =>
      cases config with
      | object config =>
          dsimp only [Option.bind_some]
          cases config.lookup "batch_at" with
          | none => rfl
          | some batchAt =>
              cases batchAt with
              | string text =>
                  dsimp only
                  cases readers.fromIsoFormat text <;> rfl
              | _ => rfl
      | _ => rfl

/-- The loader asks no more of a stored manifest than the planner. -/
theorem loadLanded_cases (covered : Covered zone contents bucket batchId object fixture)
    (present : bucket.lookup (zone.manifestKey batchId) = some object)
    (hex : forall body, isHex 64 (zone.readers.sha256 body) = true)
    (fromIsoFormat : String -> Option Datetime) (root : String) :
    (landedInstant zone fromIsoFormat object.body = none ∧ Exists fun problem =>
      loadLanded zone fromIsoFormat bucket root batchId object = .error problem) ∨
    Exists fun instant => Exists fun tables =>
      landedInstant zone fromIsoFormat object.body = some instant ∧
        loadLanded zone fromIsoFormat bucket root batchId object =
          .ok { batchId, batchAt := instant, tables } ∧
        List.Forall₂ (TableLoaded zone bucket batchId) requiredTables tables := by
  obtain ⟨json, loads, ⟨entries, rfl, schema, isBatch, tables⟩, isHexId, required⟩ :=
    covered.verified.manifest.accepted
  rw [covered.batch] at isBatch isHexId
  rw [← covered.body] at loads
  obtain ⟨files, areFiles, loaded⟩ := mapM_related fun _ member =>
    verifyTable_landed covered hex root member
  have identity : hasIdentity entries batchId = true := by
    rw [hasIdentity, schema, isBatch]
    exact decide_eq_true ⟨rfl, rfl⟩
  have inventoried : inventory entries = .ok fixture.manifest.tables := by
    rw [inventory, tables]
    exact if_pos required
  have isFile : (syncedDirectory zone bucket root batchId).files "manifest.json" =
      some object.body := by
    change (bucket.lookup (zone.manifestKey batchId)).map StoredObject.body = _
    rw [present, Option.map_some]
  have isLoad : loadLanded zone fromIsoFormat bucket root batchId object =
      loadDocument (zoneReaders zone fromIsoFormat) (syncedDirectory zone bucket root batchId)
        batchId (.object entries) := by
    refine (reject_bind_of_not (Bool.not_eq_false _ ▸ isHexId)).trans
      ((reject_bind_of_not (not_not.mpr rfl)).trans ?_)
    rw [isFile]
    refine (reject_bind_of_not ?_).trans ?_
    · simp [zoneReaders]
    · rw [zoneReaders, loads]
  have instant_eq : landedInstant zone fromIsoFormat object.body =
      sourceInstant (zoneReaders zone fromIsoFormat) (.object entries) := by
    rw [landedInstant, loads, Option.bind_some]
  have fails : forall problem,
      loadDocument (zoneReaders zone fromIsoFormat) (syncedDirectory zone bucket root batchId)
        batchId (.object entries) = .error problem ->
      Exists fun problem =>
        loadLanded zone fromIsoFormat bucket root batchId object = .error problem :=
    fun problem isError => ⟨problem, isLoad.trans isError⟩
  rw [instant_eq, isLoad]
  rw [loadDocument, reject_bind_of_not (Bool.not_eq_false _ ▸ identity), inventoried, ok_bind]
  rw [sourceInstant, ← parseBatchAt_toOption]
  cases parseBatchAt (zoneReaders zone fromIsoFormat) entries with
  | error problem =>
      exact Or.inl ⟨rfl, problem, rfl⟩
  | ok batchAt =>
      rw [ok_bind]
      dsimp only [Except.toOption]
      by_cases aware : batchAt.aware = true
      · rw [if_pos aware, reject_bind_of_not (Bool.not_eq_false _ ▸ aware)]
        change (_ ∧ _) ∨ _
        rw [show (requiredTables.mapM fun name => verifyTable (zoneReaders zone fromIsoFormat).readers
          (syncedDirectory zone bucket root batchId) name (fixture.manifest.tables.lookup name)) =
            .ok files from areFiles, ok_bind]
        cases isInstant : batchAt.toUtc with
        | none => exact Or.inl ⟨rfl, .overflow, rfl⟩
        | some instant => exact Or.inr ⟨instant, files, rfl, rfl, loaded⟩
      · rw [if_neg aware]
        exact Or.inl ⟨rfl, _,
          reject_bind_eq_error_iff.mpr (Or.inl ⟨Bool.eq_false_iff.mpr aware, rfl⟩)⟩

/-! ## Discovery of what the landing zone stores -/

/-- The bucket as the planner reads it; a key without an object raises. -/
def bucketStore (missing : Problem) (bucket : Bucket) : Store Problem := fun key =>
  match bucket.lookup key with
  | none => .error missing
  | some object => .ok (landedResponse Problem object)

/-- The manifests of a bucket, as its listing shows them. -/
def bucketKeys (zone : LandingZone) (bucket : Bucket) : List ManifestEntry :=
  bucket.filterMap fun stored =>
    manifestEntryOf zone.root { key := stored.1, lastModified := some stored.2.lastModified }

theorem manifestBatch_eq_some_iff {key : String} :
    manifestBatch? zone.root key = some batchId ↔
      key = zone.manifestKey batchId ∧ isHex 16 batchId = true := by
  have split : (zone.manifestKey batchId).toList =
      (zone.root ++ "/batch_id=").toList ++ (batchId.toList ++ "/manifest.json".toList) := by
    rw [LandingZone.manifestKey, LandingZone.objectKey, LandingZone.baseKey]
    simp only [String.toList_append, List.append_assoc]
    rfl
  unfold manifestBatch?
  dsimp only
  constructor
  · intro found
    split at found
    · next holds =>
        obtain ⟨starts, isHexId, ends⟩ := holds
        obtain rfl := Option.some.inj found
        refine ⟨String.toList_inj.mp ?_, isHexId⟩
        obtain ⟨rest, whole⟩ := List.isPrefixOf_iff_prefix.mp starts
        rw [split, String.toList_ofList, ← ends, List.take_append_drop, ← whole,
          List.drop_left]
    · nomatch found
  · rintro ⟨rfl, isHexId⟩
    have length : batchId.toList.length = 16 :=
      of_decide_eq_true (Bool.and_eq_true_iff.mp isHexId).1
    have same : String.ofList (List.take 16 (batchId.toList ++ "/manifest.json".toList)) =
        batchId := by
      rw [← length, List.take_left, String.ofList_toList]
    rw [split, List.drop_left, same, if_pos]
    refine ⟨List.isPrefixOf_iff_prefix.mpr (List.prefix_append _ _), isHexId, ?_⟩
    rw [← length, List.drop_left]

theorem lookup_iff_mem (distinct : (bucket.map Prod.fst).Nodup) {key : String} :
    bucket.lookup key = some object ↔ (key, object) ∈ bucket := by
  have isMember : forall other, bucket.lookup key = some other -> (key, other) ∈ bucket := by
    intro other found
    obtain ⟨before, after, same, _⟩ := List.lookup_eq_some_iff.mp found
    rw [same]
    exact List.mem_append_right _ List.mem_cons_self
  refine ⟨isMember object, fun member => ?_⟩
  cases found : bucket.lookup key with
  | none =>
      have absent := List.lookup_eq_none_iff.mp found (key, object) member
      simp at absent
  | some other =>
      have same : (key, other) = (key, object) :=
        List.inj_on_of_nodup_map distinct (isMember other found) member rfl
      rw [(Prod.mk.inj same).2]

theorem mem_bucketKeys_iff (distinct : (bucket.map Prod.fst).Nodup) {entry : ManifestEntry} :
    entry ∈ bucketKeys zone bucket ↔ Exists fun batchId => Exists fun object =>
      bucket.lookup (zone.manifestKey batchId) = some object ∧ isHex 16 batchId = true ∧
        entry = landedEntry zone batchId object := by
  constructor
  · intro member
    obtain ⟨⟨key, object⟩, isStored, isEntry⟩ := List.mem_filterMap.mp member
    obtain ⟨batchId, isBatch, rfl⟩ := Option.map_eq_some_iff.mp isEntry
    obtain ⟨rfl, isHexId⟩ := manifestBatch_eq_some_iff.mp isBatch
    exact ⟨batchId, object, (lookup_iff_mem distinct).mpr isStored, isHexId, rfl⟩
  · rintro ⟨batchId, object, present, isHexId, rfl⟩
    refine List.mem_filterMap.mpr ⟨_, (lookup_iff_mem distinct).mp present, ?_⟩
    rw [manifestEntryOf, manifestBatch_eq_some_iff.mpr ⟨rfl, isHexId⟩]
    rfl

/-- A planner of the landing zone. -/
def zonePlanner (zone : LandingZone) (fromIsoFormat : String -> Option Datetime)
    (manifestReadWorkers : Nat)
    (admitted : 1 ≤ manifestReadWorkers ∧ manifestReadWorkers ≤ 8) : Planner where
  readers := zoneReaders zone fromIsoFormat
  bucketName := zone.bucketName
  manifestReadWorkers
  admitted

/-- What planner and loader make of a manifest of the bucket. -/
structure Agreed (zone : LandingZone) (fromIsoFormat : String -> Option Datetime)
    (bucket : Bucket) (batchId : String) (object : StoredObject) : Prop where
  /-- The planner lists the batch when its source has a moment. -/
  listed : forall Problem : Type,
    (Exists fun batch => readLanded zone fromIsoFormat Problem batchId object = .ok batch) ↔
      (landedInstant zone fromIsoFormat object.body).isSome = true
  /-- Otherwise it raises. -/
  refused : forall Problem : Type, landedInstant zone fromIsoFormat object.body = none ->
    readLanded zone fromIsoFormat Problem batchId object =
      .error (invalidManifest (zone.manifestKey batchId))
  /-- The loader accepts the batch when the planner does. -/
  loaded : forall root,
    (Exists fun directory => loadLanded zone fromIsoFormat bucket root batchId object =
        .ok directory) ↔
      (landedInstant zone fromIsoFormat object.body).isSome = true
  batch : forall (Problem : Type) batch,
    readLanded zone fromIsoFormat Problem batchId object = .ok batch ->
      batch.batchId = batchId ∧ batch.manifestSha256 = zone.readers.sha256 object.body ∧
        landedInstant zone fromIsoFormat object.body = some batch.batchAt
  directory : forall root directory,
    loadLanded zone fromIsoFormat bucket root batchId object = .ok directory ->
      directory.batchId = batchId ∧
        landedInstant zone fromIsoFormat object.body = some directory.batchAt ∧
        List.Forall₂ (TableLoaded zone bucket batchId) requiredTables directory.tables

theorem agreed_of_covered (covered : Covered zone contents bucket batchId object fixture)
    (present : bucket.lookup (zone.manifestKey batchId) = some object)
    (hex : forall body, isHex 64 (zone.readers.sha256 body) = true)
    (fromIsoFormat : String -> Option Datetime) :
    Agreed zone fromIsoFormat bucket batchId object := by
  constructor
  · intro Problem
    rcases readLanded_cases Problem covered hex fromIsoFormat with
      ⟨isNone, fails⟩ | ⟨manifest, instant, isSome, returns⟩
    · rw [isNone, fails]
      exact ⟨nofun, nofun⟩
    · rw [isSome, returns]
      exact ⟨fun _ => rfl, fun _ => ⟨_, rfl⟩⟩
  · intro Problem isNone
    rcases readLanded_cases Problem covered hex fromIsoFormat with
      ⟨_, fails⟩ | ⟨manifest, instant, isSome, _⟩
    · exact fails
    · rw [isNone] at isSome
      nomatch isSome
  · intro root
    rcases loadLanded_cases covered present hex fromIsoFormat root with
      ⟨isNone, problem, fails⟩ | ⟨instant, tables, isSome, returns, _⟩
    · rw [isNone, fails]
      exact ⟨nofun, nofun⟩
    · rw [isSome, returns]
      exact ⟨fun _ => rfl, fun _ => ⟨_, rfl⟩⟩
  · intro Problem batch isBatch
    rcases readLanded_cases Problem covered hex fromIsoFormat with
      ⟨_, fails⟩ | ⟨manifest, instant, isSome, returns⟩
    · rw [fails] at isBatch
      nomatch isBatch
    · obtain rfl := Except.ok.inj (returns.symm.trans isBatch)
      exact ⟨rfl, rfl, isSome⟩
  · intro root directory isDirectory
    rcases loadLanded_cases covered present hex fromIsoFormat root with
      ⟨_, problem, fails⟩ | ⟨instant, tables, isSome, returns, loaded⟩
    · rw [fails] at isDirectory
      nomatch isDirectory
    · obtain rfl := Except.ok.inj (returns.symm.trans isDirectory)
      exact ⟨rfl, isSome, loaded⟩

/-- Whether discovery of a bucket returns, and what planner and loader make of each of its
manifests. -/
structure LandedAlike (zone : LandingZone) (fromIsoFormat : String -> Option Datetime)
    (bucket : Bucket) : Prop where
  each : forall batchId object, bucket.lookup (zone.manifestKey batchId) = some object ->
    Agreed zone fromIsoFormat bucket batchId object
  discovery : forall (Problem : Type) (missing : Problem) workers admitted keys,
    keys.Perm (bucketKeys zone bucket) ->
      ((Exists fun batches => (zonePlanner zone fromIsoFormat workers admitted).discoverInOrder
          (bucketStore missing bucket) (.ok keys) = .ok batches) ↔
        forall batchId object, bucket.lookup (zone.manifestKey batchId) = some object ->
          (landedInstant zone fromIsoFormat object.body).isSome = true)

theorem discoverInOrder_returns_iff (planner : Planner) (store : Store Problem)
    (keys : List ManifestEntry) :
    (Exists fun batches => planner.discoverInOrder store (.ok keys) = .ok batches) ↔
      forall entry, entry ∈ keys -> Exists fun batch => planner.read store entry = .ok batch := by
  rw [← mapM_returns_iff, discoverInOrder_ok, Planner.readInOrder]
  cases keys.mapM (planner.read store) with
  | ok read => exact ⟨fun _ => ⟨read, rfl⟩, fun _ => ⟨_, rfl⟩⟩
  | error problem => exact ⟨nofun, nofun⟩

/-- Whatever the landing zone has stored, in any interleaving of its calls: the planner and the
loader accept the same manifests, those whose source has a moment. So discovery of the bucket
returns when all of them have one, and one that has none makes it fail. -/
theorem landed_manifests_agree (zone : LandingZone) (contents : Set Bytes)
    (injective : Set.InjOn zone.readers.sha256 contents)
    (hex : forall body, isHex 64 (zone.readers.sha256 body) = true)
    (fromIsoFormat : String -> Option Datetime) (events : List (LandingEvent contents)) :
    LandedAlike zone fromIsoFormat ((landingMachine zone contents).run events).bucket := by
  have valid := (landingValid_run injective events).bucket
  have each : forall batchId object,
      ((landingMachine zone contents).run events).bucket.lookup (zone.manifestKey batchId) =
        some object ->
      Agreed zone fromIsoFormat ((landingMachine zone contents).run events).bucket batchId object ∧
        isHex 16 batchId = true := by
    intro batchId object present
    obtain ⟨fixture, covered⟩ := valid.covered batchId object present
    obtain ⟨_, _, accepted⟩ := covered.verified.manifest.accepted
    exact ⟨agreed_of_covered covered present hex fromIsoFormat, covered.batch ▸ accepted.batchId⟩
  refine ⟨fun batchId object present => (each batchId object present).1, ?_⟩
  intro Problem missing workers admitted keys listed
  rw [discoverInOrder_returns_iff]
  have read : forall batchId object,
      ((landingMachine zone contents).run events).bucket.lookup (zone.manifestKey batchId) =
        some object ->
      (zonePlanner zone fromIsoFormat workers admitted).read
          (bucketStore missing ((landingMachine zone contents).run events).bucket)
          (landedEntry zone batchId object) =
        readLanded zone fromIsoFormat Problem batchId object := by
    intro batchId object present
    have answer : bucketStore missing ((landingMachine zone contents).run events).bucket
        (zone.manifestKey batchId) = .ok (landedResponse Problem object) := by
      rw [bucketStore, present]
    exact congrArg (readManifest (zoneReaders zone fromIsoFormat) zone.bucketName
      (landedEntry zone batchId object)) answer
  constructor
  · intro returns batchId object present
    obtain ⟨agreed, isHexId⟩ := each batchId object present
    have isListed : landedEntry zone batchId object ∈ keys := listed.mem_iff.mpr
      ((mem_bucketKeys_iff valid.keys).mpr ⟨batchId, object, present, isHexId, rfl⟩)
    obtain ⟨batch, isBatch⟩ := returns _ isListed
    exact (agreed.listed Problem).mp ⟨batch, (read batchId object present).symm.trans isBatch⟩
  · intro dated entry isListed
    obtain ⟨batchId, object, present, _, rfl⟩ :=
      (mem_bucketKeys_iff valid.keys).mp (listed.mem_iff.mp isListed)
    rw [read batchId object present]
    exact ((each batchId object present).1.listed Problem).mpr (dated batchId object present)

/-! A fixture whose manifest has the moment of its source. -/

def sampleEntryBytes (table : String) : Bytes :=
  ascii "\"" ++ ascii table ++ ascii "\":\x7b\"file\":\"" ++ ascii table ++
    ascii ".jsonl\",\"rows\":1,\"sha256\":\"" ++ ascii sampleChecksum ++ ascii "\"\x7d"

def datedManifest : Bytes :=
  ascii "\x7b\"schema_version\":1,\"batch_id\":\"00000000000000a1\"," ++
    ascii "\"config\":\x7b\"batch_at\":\"2026-01-01T00:00:00Z\"\x7d,\"tables\":\x7b" ++
    (ascii ",").intercalate (requiredTables.map sampleEntryBytes) ++ ascii "\x7d\x7d"

/-- What the manifest loads to. -/
def datedJson : Json :=
  .object [("schema_version", .int 1), ("batch_id", .string "00000000000000a1"),
    ("config", .object [("batch_at", .string "2026-01-01T00:00:00Z")]),
    ("tables", .object (requiredTables.map fun table => (table, sampleEntry table)))]

def datedZone : LandingZone where
  readers := {
    loads := fun body => if body = datedManifest then some datedJson else none
    sha256 := fun body =>
      if body = sampleRow then sampleChecksum
      else "aac8b0825fded6e4b6684892fd19b1d67517bedf427e48c460833636a404e30e" }
  bucketName := "lakehouse"
  keyPrefix := "landing"

def datedFormat (text : String) : Option Datetime :=
  if text = "2026-01-01T00:00:00Z" then some { wall := 1767225600000000, offset := some 0 }
  else none

def datedContents : Set Bytes :=
  {datedManifest, sampleRow}

/-- A call that nothing disturbs. -/
def datedEvents : List (LandingEvent datedContents) :=
  let putNow : LandingEvent datedContents := .act 0 (.put .answered 0)
  let readRow : LandingEvent datedContents := .act 0 (.read (.content ⟨sampleRow, Or.inr rfl⟩))
  let readManifest : LandingEvent datedContents :=
    .act 0 (.read (.content ⟨datedManifest, Or.inl rfl⟩))
  [.write "fixture", readManifest, readRow, readRow, readRow, readRow,
    readRow, putNow, readRow, putNow, readRow, putNow, readRow, putNow, readManifest, putNow]

theorem datedZone_injective : Set.InjOn datedZone.readers.sha256 datedContents := by
  have differs : datedZone.readers.sha256 datedManifest ≠ datedZone.readers.sha256 sampleRow := by
    decide +kernel
  rintro left (isLeft | isLeft) right (isRight | isRight) same
  · rw [isLeft, isRight]
  · rw [isLeft, isRight] at same
    exact absurd same differs
  · rw [isLeft, isRight] at same
    exact absurd same.symm differs
  · rw [isLeft, isRight]

theorem datedZone_hex (body : Bytes) : isHex 64 (datedZone.readers.sha256 body) = true := by
  unfold datedZone
  dsimp only
  by_cases isRow : body = sampleRow
  · rw [if_pos isRow]
    decide +kernel
  · rw [if_neg isRow]
    decide +kernel

def datedObject : StoredObject where
  body := datedManifest
  metadata := manifestMetadata "00000000000000a1" (datedZone.readers.sha256 datedManifest)
  lastModified := 0

theorem datedObject_present :
    ((landingMachine datedZone datedContents).run datedEvents).bucket.lookup
      (datedZone.manifestKey "00000000000000a1") = some datedObject := by
  decide +kernel

theorem datedObject_instant :
    (landedInstant datedZone datedFormat datedObject.body).isSome = true := by
  decide +kernel

/-- The planner lists the fixture. -/
theorem dated_manifest_listed : Exists fun batch =>
    readLanded datedZone datedFormat String "00000000000000a1" datedObject = .ok batch :=
  (((landed_manifests_agree datedZone datedContents datedZone_injective datedZone_hex
    datedFormat datedEvents).each "00000000000000a1" datedObject datedObject_present).listed
      String).mpr datedObject_instant

end CommerceBronze
end Ingestion
end LakehouseOps
