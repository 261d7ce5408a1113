import Mathlib.Data.Set.Function
import LakehouseOps.Library.Pattern
import LakehouseOps.Ingestion.CommerceLanding

/-!
# A manifest covers its tables

Objects never change, so what a call has stored or compared stays. A call reaches its
manifest only when all tables of its fixture are in the bucket, and therefore every
manifest object covers the tables it names.
-/

namespace LakehouseOps
namespace Ingestion

open Library
open Library.Fallible

/-! ## Objects stay -/

/-- Every object of the first bucket is in the second. -/
def Extends (before after : Bucket) : Prop :=
  forall key object, before.lookup key = some object -> after.lookup key = some object

theorem Extends.refl (bucket : Bucket) : Extends bucket bucket :=
  fun _ _ present => present

theorem lookup_putIfAbsent (bucket : Bucket) (key : String) (object : StoredObject)
    (other : String) :
    (putIfAbsent bucket key object).lookup other =
      (bucket.lookup other).or (if other = key then some object else none) := by
  unfold putIfAbsent
  cases present : bucket.lookup key with
  | none =>
      rw [List.lookup_append]
      by_cases same : other = key
      · subst same
        rw [List.lookup_cons_self, if_pos rfl]
      · have differs : (other == key) = false := by simpa using same
        rw [List.lookup_cons, differs, if_neg same, List.lookup_nil]
  | some existing =>
      by_cases same : other = key
      · subst same
        simp [present]
      · simp [same]

theorem extends_putIfAbsent (bucket : Bucket) (key : String) (object : StoredObject) :
    Extends bucket (putIfAbsent bucket key object) := by
  intro other existing present
  rw [lookup_putIfAbsent, present, Option.some_or]

/-- A put leaves the bucket or stores the object. -/
theorem putObject_bucket
    (bucket : Bucket)
    (key : String)
    (object : StoredObject)
    (answer : PutAnswer) :
    (putObject bucket key object answer).1 = bucket ∨
      (putObject bucket key object answer).1 = putIfAbsent bucket key object := by
  cases answer with
  | answered => exact Or.inr rfl
  | refused => exact Or.inl rfl
  | lost => exact Or.inr rfl
  | resent => exact Or.inr rfl

theorem extends_putObject
    (bucket : Bucket)
    (key : String)
    (object : StoredObject)
    (answer : PutAnswer) :
    Extends bucket (putObject bucket key object answer).1 := by
  rcases putObject_bucket bucket key object answer with same | stored
  · rw [same]
    exact Extends.refl bucket
  · rw [stored]
    exact extends_putIfAbsent bucket key object

/-- After a put that created the object, the bucket has it. -/
theorem lookup_of_created
    {bucket : Bucket}
    {key : String}
    {object : StoredObject}
    {answer : PutAnswer}
    (created : (putObject bucket key object answer).2 = .created) :
    (putObject bucket key object answer).1.lookup key = some object := by
  cases answer with
  | answered =>
      unfold putObject at created ⊢
      cases present : bucket.lookup key with
      | none => simp [lookup_putIfAbsent, present]
      | some existing => simp [present] at created
  | refused => exact PutOutcome.noConfusion created
  | lost => exact PutOutcome.noConfusion created
  | resent => exact PutOutcome.noConfusion created

/-! ## Keys -/

/-- A key tells the batch and the name of the object in it. -/
theorem objectKey_injective
    {zone : LandingZone}
    {leftBatch rightBatch leftName rightName : String}
    (leftPlain : '/' ∉ leftName.toList)
    (rightPlain : '/' ∉ rightName.toList)
    (same : zone.objectKey leftBatch leftName = zone.objectKey rightBatch rightName) :
    leftBatch = rightBatch ∧ leftName = rightName := by
  have reversed := congrArg (fun key => key.toList.reverse) same
  have split : forall batch name : String, (zone.objectKey batch name).toList.reverse =
      name.toList.reverse ++ '/' :: (zone.baseKey batch).toList.reverse := by
    intro batch name
    unfold LandingZone.objectKey
    simp [String.toList_append]
  simp only [split] at reversed
  obtain ⟨sameName, sameBase⟩ := Pattern.eq_of_append_separator
    (by simpa using leftPlain) (by simpa using rightPlain) reversed
  have bases : zone.baseKey leftBatch = zone.baseKey rightBatch :=
    String.toList_inj.mp (List.reverse_injective sameBase)
  have batches : leftBatch.toList = rightBatch.toList := by
    have texts := congrArg String.toList bases
    unfold LandingZone.baseKey at texts
    simp only [String.toList_append] at texts
    exact List.append_cancel_left texts
  exact ⟨String.toList_inj.mp batches,
    String.toList_inj.mp (List.reverse_injective sameName)⟩

/-- Table keys are not manifest keys. -/
theorem tableKey_ne_manifestKey
    {zone : LandingZone}
    {batchId otherBatch table : String}
    (required : table ∈ requiredTables) :
    zone.tableKey batchId table ≠ zone.manifestKey otherBatch := by
  have plain : forall name, name ∈ requiredTables ->
      '/' ∉ (tableFile name).toList ∧ tableFile name ≠ "manifest.json" := by
    decide
  intro same
  obtain ⟨noSlash, notManifest⟩ := plain table required
  exact notManifest (objectKey_injective noSlash (by decide) same).2

theorem manifestKey_injective
    {zone : LandingZone}
    {left right : String}
    (same : zone.manifestKey left = zone.manifestKey right) :
    left = right :=
  (objectKey_injective (by decide) (by decide) same).1

/-! ## The invariant -/

variable {zone : LandingZone} {contents : Set Bytes}

/-- A table whose content was verified against its entry. -/
structure TableVerified
    (zone : LandingZone)
    (contents : Set Bytes)
    (manifest : LandingManifest)
    (table : VerifiedTable) : Prop where
  entry : EntryAccepted manifest.tables table.name table.entry
  checksum : zone.readers.sha256 table.content = table.entry.sha256
  rows : (lineCount table.content : Int) = table.entry.rows
  content : table.content ∈ contents

/-- The document behind a manifest that was read. -/
structure ManifestRead
    (zone : LandingZone)
    (contents : Set Bytes)
    (body : Bytes)
    (manifest : LandingManifest) : Prop where
  accepted : Exists fun json =>
    zone.readers.loads body = some json ∧ ManifestAccepted json manifest
  content : body ∈ contents
  size : body.length ≤ maxCommerceManifestBytes

/-- A fixture that was verified. -/
structure Fixture.Verified
    (fixture : Fixture)
    (zone : LandingZone)
    (contents : Set Bytes) : Prop where
  manifest : ManifestRead zone contents fixture.manifestBody fixture.manifest
  names : fixture.tables.map VerifiedTable.name = requiredTables
  tables : forall table, table ∈ fixture.tables ->
    TableVerified zone contents fixture.manifest table

/-- The bucket has the table of the fixture. -/
def TableStored
    (zone : LandingZone)
    (bucket : Bucket)
    (fixture : Fixture)
    (table : VerifiedTable) : Prop :=
  Exists fun object =>
    bucket.lookup (zone.tableKey fixture.manifest.batchId table.name) = some object ∧
      object.body = table.content

/-- The bucket has the manifest of the fixture. -/
def ManifestStored (zone : LandingZone) (bucket : Bucket) (fixture : Fixture) : Prop :=
  Exists fun object =>
    bucket.lookup (zone.manifestKey fixture.manifest.batchId) = some object ∧
      object.body = fixture.manifestBody

/-- The bucket has all tables of the fixture. -/
def TablesStored (zone : LandingZone) (bucket : Bucket) (fixture : Fixture) : Prop :=
  forall table, table ∈ fixture.tables -> TableStored zone bucket fixture table

/-- The fixture is verified, the table is its next one, and those before it are stored. -/
structure Uploading
    (zone : LandingZone)
    (contents : Set Bytes)
    (bucket : Bucket)
    (fixture : Fixture)
    (table : VerifiedTable)
    (remaining : List VerifiedTable) : Prop where
  verified : fixture.Verified zone contents
  stored : Exists fun done => fixture.tables = done ++ table :: remaining ∧
    forall earlier, earlier ∈ done -> TableStored zone bucket fixture earlier

/-- What a call has established where it stands. -/
def CallValid (zone : LandingZone) (contents : Set Bytes) (bucket : Bucket) : Call -> Prop
  | .starting => True
  | .verifying manifestBody manifest verified remaining =>
      ManifestRead zone contents manifestBody manifest ∧
        verified.map VerifiedTable.name ++ remaining = requiredTables ∧
        forall table, table ∈ verified -> TableVerified zone contents manifest table
  | .rereading fixture table remaining _ => Uploading zone contents bucket fixture table remaining
  | .putting fixture table remaining _ body =>
      Uploading zone contents bucket fixture table remaining ∧ body = table.content
  | .comparing fixture table remaining _ => Uploading zone contents bucket fixture table remaining
  | .committing fixture _ => fixture.Verified zone contents ∧ TablesStored zone bucket fixture
  | .puttingManifest fixture _ =>
      fixture.Verified zone contents ∧ TablesStored zone bucket fixture
  | .comparingManifest fixture _ =>
      fixture.Verified zone contents ∧ TablesStored zone bucket fixture
  | .returned fixture _ =>
      fixture.Verified zone contents ∧ TablesStored zone bucket fixture ∧
        ManifestStored zone bucket fixture
  | .failed _ => True
  | .crashed => True

/-- The manifest object of a batch was put there for a fixture whose tables are stored. -/
structure Covered
    (zone : LandingZone)
    (contents : Set Bytes)
    (bucket : Bucket)
    (batchId : String)
    (object : StoredObject)
    (fixture : Fixture) : Prop where
  verified : fixture.Verified zone contents
  batch : fixture.manifest.batchId = batchId
  body : object.body = fixture.manifestBody
  metadata : object.metadata = manifestMetadata batchId (zone.readers.sha256 object.body)
  tables : TablesStored zone bucket fixture

/-- What holds of the bucket at any time. -/
structure BucketValid (zone : LandingZone) (contents : Set Bytes) (bucket : Bucket) : Prop where
  keys : (bucket.map Prod.fst).Nodup
  bodies : forall key object, bucket.lookup key = some object -> object.body ∈ contents
  covered : forall batchId object, bucket.lookup (zone.manifestKey batchId) = some object ->
    Exists (Covered zone contents bucket batchId object)

/-- What holds of the landing zone at any time. -/
structure LandingValid (zone : LandingZone) (contents : Set Bytes) (landing : Landing) :
    Prop where
  bucket : BucketValid zone contents landing.bucket
  calls : forall writer, writer ∈ landing.writers ->
    CallValid zone contents landing.bucket writer.call

/-! ## Storing objects keeps what was established -/

theorem TableStored.extend
    {before after : Bucket}
    (extends_ : Extends before after)
    {fixture : Fixture}
    {table : VerifiedTable}
    (stored : TableStored zone before fixture table) :
    TableStored zone after fixture table := by
  obtain ⟨object, present, body⟩ := stored
  exact ⟨object, extends_ _ _ present, body⟩

theorem TablesStored.extend
    {before after : Bucket}
    (extends_ : Extends before after)
    {fixture : Fixture}
    (stored : TablesStored zone before fixture) :
    TablesStored zone after fixture :=
  fun table member => (stored table member).extend extends_

theorem ManifestStored.extend
    {before after : Bucket}
    (extends_ : Extends before after)
    {fixture : Fixture}
    (stored : ManifestStored zone before fixture) :
    ManifestStored zone after fixture := by
  obtain ⟨object, present, body⟩ := stored
  exact ⟨object, extends_ _ _ present, body⟩

theorem Uploading.extend
    {before after : Bucket}
    (extends_ : Extends before after)
    {fixture : Fixture}
    {table : VerifiedTable}
    {remaining : List VerifiedTable}
    (uploading : Uploading zone contents before fixture table remaining) :
    Uploading zone contents after fixture table remaining := by
  obtain ⟨verified, done, split, stored⟩ := uploading
  exact ⟨verified, done, split, fun earlier member => (stored earlier member).extend extends_⟩

theorem CallValid.extend
    {before after : Bucket}
    (extends_ : Extends before after)
    {call : Call}
    (valid : CallValid zone contents before call) :
    CallValid zone contents after call := by
  cases call with
  | starting => trivial
  | verifying manifestBody manifest verified remaining => exact valid
  | rereading fixture table remaining created => exact Uploading.extend extends_ valid
  | putting fixture table remaining created body => exact ⟨valid.1.extend extends_, valid.2⟩
  | comparing fixture table remaining created => exact Uploading.extend extends_ valid
  | committing fixture created => exact ⟨valid.1, valid.2.extend extends_⟩
  | puttingManifest fixture created => exact ⟨valid.1, valid.2.extend extends_⟩
  | comparingManifest fixture created => exact ⟨valid.1, valid.2.extend extends_⟩
  | returned fixture result =>
      exact ⟨valid.1, valid.2.1.extend extends_, valid.2.2.extend extends_⟩
  | failed problem => trivial
  | crashed => trivial

theorem keys_putIfAbsent
    {bucket : Bucket}
    (keys : (bucket.map Prod.fst).Nodup)
    (key : String)
    (object : StoredObject) :
    ((putIfAbsent bucket key object).map Prod.fst).Nodup := by
  unfold putIfAbsent
  cases present : bucket.lookup key with
  | some existing => exact keys
  | none =>
      rw [List.map_append, List.nodup_append]
      refine ⟨keys, by simp, ?_⟩
      intro left isLeft right isRight same
      obtain ⟨entry, isEntry, rfl⟩ := List.mem_map.mp isLeft
      simp only [List.map_cons, List.map_nil, List.mem_singleton] at isRight
      have absent := List.lookup_eq_none_iff.mp present entry isEntry
      simp [same, isRight] at absent

/-- Storing an object that is no manifest, or the manifest of a fixture whose tables are
stored, keeps the bucket valid. -/
theorem BucketValid.put
    {bucket : Bucket}
    (valid : BucketValid zone contents bucket)
    {key : String}
    {object : StoredObject}
    (body : object.body ∈ contents)
    (manifest : forall batchId, key = zone.manifestKey batchId ->
      Exists (Covered zone contents bucket batchId object)) :
    BucketValid zone contents (putIfAbsent bucket key object) := by
  have extended := extends_putIfAbsent bucket key object
  have cases_lookup : forall other stored,
      (putIfAbsent bucket key object).lookup other = some stored ->
        bucket.lookup other = some stored ∨ other = key ∧ stored = object := by
    intro other stored present
    rw [lookup_putIfAbsent] at present
    rcases Option.or_eq_some_iff.mp present with old | ⟨_, new⟩
    · exact Or.inl old
    · split at new
      · next same => exact Or.inr ⟨same, (Option.some.inj new).symm⟩
      · exact absurd new.symm (Option.some_ne_none _)
  refine ⟨keys_putIfAbsent valid.keys key object, ?_, ?_⟩
  · intro other stored present
    rcases cases_lookup other stored present with old | ⟨_, rfl⟩
    · exact valid.bodies other stored old
    · exact body
  · intro batchId stored present
    obtain ⟨fixture, covered⟩ : Exists (Covered zone contents bucket batchId stored) := by
      rcases cases_lookup _ stored present with old | ⟨same, rfl⟩
      · exact valid.covered batchId stored old
      · exact manifest batchId same.symm
    exact ⟨fixture, covered.verified, covered.batch, covered.body, covered.metadata,
      covered.tables.extend extended⟩

theorem BucketValid.putObject
    {bucket : Bucket}
    (valid : BucketValid zone contents bucket)
    {key : String}
    {object : StoredObject}
    (body : object.body ∈ contents)
    (manifest : forall batchId, key = zone.manifestKey batchId ->
      Exists (Covered zone contents bucket batchId object))
    (answer : PutAnswer) :
    BucketValid zone contents (Ingestion.putObject bucket key object answer).1 := by
  rcases putObject_bucket bucket key object answer with same | stored
  · rw [same]
    exact valid
  · rw [stored]
    exact valid.put body manifest

/-! ## Steps of a call -/

theorem nextUpload_valid
    {bucket : Bucket}
    {fixture : Fixture}
    (verified : fixture.Verified zone contents)
    {done remaining : List VerifiedTable}
    (split : fixture.tables = done ++ remaining)
    (stored : forall earlier, earlier ∈ done -> TableStored zone bucket fixture earlier)
    (created : Nat) :
    CallValid zone contents bucket (nextUpload fixture created remaining) := by
  cases remaining with
  | nil =>
      rw [List.append_nil] at split
      refine ⟨verified, fun table member => ?_⟩
      rw [split] at member
      exact stored table member
  | cons table rest => exact ⟨verified, done, split, stored⟩

theorem Uploading.next
    {bucket : Bucket}
    {fixture : Fixture}
    {table : VerifiedTable}
    {remaining : List VerifiedTable}
    (uploading : Uploading zone contents bucket fixture table remaining)
    (present : TableStored zone bucket fixture table)
    (created : Nat) :
    CallValid zone contents bucket (nextUpload fixture created remaining) := by
  obtain ⟨verified, done, split, stored⟩ := uploading
  have longer : fixture.tables = (done ++ [table]) ++ remaining := by
    rw [split, List.append_assoc, List.singleton_append]
  refine nextUpload_valid verified longer ?_ created
  intro earlier member
  rcases List.mem_append.mp member with before | now
  · exact stored earlier before
  · rw [List.mem_singleton.mp now]
    exact present

theorem Uploading.table_verified
    {bucket : Bucket}
    {fixture : Fixture}
    {table : VerifiedTable}
    {remaining : List VerifiedTable}
    (uploading : Uploading zone contents bucket fixture table remaining) :
    TableVerified zone contents fixture.manifest table := by
  obtain ⟨verified, done, split, _⟩ := uploading
  apply verified.tables
  rw [split]
  exact List.mem_append_right done List.mem_cons_self

theorem nextVerification_valid
    {bucket : Bucket}
    {manifestBody : Bytes}
    {manifest : LandingManifest}
    (read : ManifestRead zone contents manifestBody manifest)
    {verified : List VerifiedTable}
    {remaining : List String}
    (names : verified.map VerifiedTable.name ++ remaining = requiredTables)
    (tables : forall table, table ∈ verified -> TableVerified zone contents manifest table) :
    CallValid zone contents bucket
      (nextVerification manifestBody manifest verified remaining) := by
  cases remaining with
  | nil =>
      rw [List.append_nil] at names
      refine nextUpload_valid ⟨read, names, tables⟩ (List.nil_append verified).symm ?_ 0
      intro earlier none
      exact absurd none List.not_mem_nil
  | cons name rest => exact ⟨read, names, tables⟩

theorem orFailed_valid
    {bucket : Bucket}
    {outcome : Except String Call}
    (valid : forall call, outcome = .ok call -> CallValid zone contents bucket call) :
    CallValid zone contents bucket (orFailed outcome) := by
  cases outcome with
  | ok call => exact valid call rfl
  | error problem => trivial

theorem readManifestBytes_eq_ok
    {systemError : String}
    {reading : Reading contents}
    {body : Bytes}
    (returned : readManifestBytes systemError reading = .ok body) :
    body ∈ contents ∧ body.length ≤ maxCommerceManifestBytes := by
  cases reading with
  | content found =>
      simp only [readManifestBytes] at returned
      split at returned
      · contradiction
      · next small =>
          injection returned with same
          rw [← same]
          exact ⟨found.property, Nat.not_lt.mp small⟩
  | symlink => contradiction
  | missing => contradiction
  | unreadable => contradiction

theorem loadManifest_valid
    {bucket : Bucket}
    {directory : String}
    {reading : Reading contents}
    {call : Call}
    (loaded : loadManifest zone directory reading = .ok call) :
    CallValid zone contents bucket call := by
  unfold loadManifest at loaded
  split at loaded
  · contradiction
  · obtain ⟨body, isBody, parsed⟩ := bind_eq_ok_iff.mp loaded
    obtain ⟨inContents, small⟩ := readManifestBytes_eq_ok isBody
    split at parsed
    · contradiction
    · next json isJson =>
        obtain ⟨manifest, checked, final⟩ := bind_eq_ok_iff.mp parsed
        injection final with same
        rw [← same]
        exact nextVerification_valid
          ⟨⟨json, isJson, checkManifest_eq_ok_iff.mp checked⟩, inContents, small⟩
          (List.nil_append _) (fun table none => absurd none List.not_mem_nil)

theorem verifyTable_valid
    {bucket : Bucket}
    {directory : String}
    {manifestBody : Bytes}
    {manifest : LandingManifest}
    (read : ManifestRead zone contents manifestBody manifest)
    {verified : List VerifiedTable}
    {name : String}
    {remaining : List String}
    (names : verified.map VerifiedTable.name ++ name :: remaining = requiredTables)
    (tables : forall table, table ∈ verified -> TableVerified zone contents manifest table)
    {reading : Reading contents}
    {call : Call}
    (returned : verifyTable zone directory manifestBody manifest verified name remaining
      reading = .ok call) :
    CallValid zone contents bucket call := by
  unfold verifyTable at returned
  obtain ⟨entry, checked, rest⟩ := bind_eq_ok_iff.mp returned
  cases reading with
  | content body =>
      obtain ⟨_, matching, final⟩ := bind_eq_ok_iff.mp rest
      obtain ⟨checksum, rows⟩ := checkTableContent_eq_ok_iff.mp matching
      injection final with same
      rw [← same]
      refine nextVerification_valid read ?_ ?_
      · rw [List.map_append, List.append_assoc]
        exact names
      · intro table member
        rcases List.mem_append.mp member with before | now
        · exact tables table before
        · rw [List.mem_singleton.mp now]
          exact ⟨checkTableEntry_eq_ok_iff.mp checked, checksum, rows, body.property⟩
  | symlink => contradiction
  | missing => contradiction
  | unreadable => contradiction

/-- A read keeps what the call has established. The content read again is the content
verified before, because checksums tell contents apart. -/
theorem Call.read_valid
    (injective : Set.InjOn zone.readers.sha256 contents)
    {bucket : Bucket}
    {call : Call}
    (valid : CallValid zone contents bucket call)
    (directory : String)
    (reading : Reading contents) :
    CallValid zone contents bucket (call.read zone directory reading) := by
  cases call with
  | starting => exact orFailed_valid fun _ loaded => loadManifest_valid loaded
  | verifying manifestBody manifest verified remaining =>
      cases remaining with
      | nil => exact valid
      | cons name remaining =>
          obtain ⟨read, names, tables⟩ := valid
          exact orFailed_valid fun _ returned => verifyTable_valid read names tables returned
  | rereading fixture table remaining created =>
      refine orFailed_valid fun next returned => ?_
      cases reading with
      | content body =>
          simp only [readVerifiedBytes] at returned
          split at returned
          · next checksum =>
              injection returned with same
              have verified := Uploading.table_verified valid
              have sameContent : body.val = table.content :=
                injective body.property verified.content (checksum.trans verified.checksum.symm)
              rw [← same]
              exact ⟨valid, sameContent⟩
          · contradiction
      | symlink => contradiction
      | missing => contradiction
      | unreadable => contradiction
  | committing fixture created =>
      refine orFailed_valid fun next returned => ?_
      obtain ⟨body, _, rest⟩ := bind_eq_ok_iff.mp returned
      split at rest
      · injection rest with same
        rw [← same]
        exact valid
      · contradiction
  | putting fixture table remaining created body => exact valid
  | comparing fixture table remaining created => exact valid
  | puttingManifest fixture created => exact valid
  | comparingManifest fixture created => exact valid
  | returned fixture result => exact valid
  | failed problem => exact valid
  | crashed => exact valid

theorem compareExisting_eq_ok
    {bucket : Bucket}
    {key checksum : String}
    {answered : Bool}
    (returned : compareExisting zone bucket key checksum answered = .ok ()) :
    Exists fun existing => bucket.lookup key = some existing ∧
      zone.readers.sha256 existing.body = checksum := by
  unfold compareExisting at returned
  split at returned
  · split at returned
    · contradiction
    · next existing present =>
        split at returned
        · next same => exact ⟨existing, present, same.2⟩
        · contradiction
  · contradiction

/-- An object that was compared with a verified content has that content. -/
theorem body_of_compared
    (injective : Set.InjOn zone.readers.sha256 contents)
    {bucket : Bucket}
    (bodies : forall key object, bucket.lookup key = some object -> object.body ∈ contents)
    {key checksum : String}
    {answered : Bool}
    (returned : compareExisting zone bucket key checksum answered = .ok ())
    {content : Bytes}
    (inContents : content ∈ contents)
    (isChecksum : zone.readers.sha256 content = checksum) :
    Exists fun object => bucket.lookup key = some object ∧ object.body = content := by
  obtain ⟨existing, present, same⟩ := compareExisting_eq_ok returned
  exact ⟨existing, present,
    injective (bodies key existing present) inContents (same.trans isChecksum.symm)⟩

/-- A comparison keeps what the call has established. -/
theorem Call.get_valid
    (injective : Set.InjOn zone.readers.sha256 contents)
    {bucket : Bucket}
    (bodies : forall key object, bucket.lookup key = some object -> object.body ∈ contents)
    {call : Call}
    (valid : CallValid zone contents bucket call)
    (answered : Bool) :
    CallValid zone contents bucket (call.get zone bucket answered) := by
  cases call with
  | comparing fixture table remaining created =>
      have verified := Uploading.table_verified valid
      refine orFailed_valid fun next returned => ?_
      cases compared : compareExisting zone bucket
          (zone.tableKey fixture.manifest.batchId table.name) table.entry.sha256 answered with
      | error problem => simp only [compared, Except.map] at returned; contradiction
      | ok result =>
          simp only [compared, Except.map] at returned
          injection returned with same
          rw [← same]
          have stored : TableStored zone bucket fixture table :=
            body_of_compared injective bodies compared verified.content verified.checksum
          exact Uploading.next valid stored created
  | comparingManifest fixture created =>
      refine orFailed_valid fun next returned => ?_
      cases compared : compareExisting zone bucket
          (zone.manifestKey fixture.manifest.batchId)
          (zone.readers.sha256 fixture.manifestBody) answered with
      | error problem => simp only [compared, Except.map] at returned; contradiction
      | ok result =>
          simp only [compared, Except.map] at returned
          injection returned with same
          rw [← same]
          have stored : ManifestStored zone bucket fixture :=
            body_of_compared injective bodies compared valid.1.manifest.content rfl
          exact ⟨valid.1, valid.2, stored⟩
  | starting => exact valid
  | verifying manifestBody manifest verified remaining => exact valid
  | rereading fixture table remaining created => exact valid
  | putting fixture table remaining created body => exact valid
  | committing fixture created => exact valid
  | puttingManifest fixture created => exact valid
  | returned fixture result => exact valid
  | failed problem => exact valid
  | crashed => exact valid

theorem Call.crash_valid
    {bucket : Bucket}
    {call : Call}
    (valid : CallValid zone contents bucket call) :
    CallValid zone contents bucket call.crash := by
  cases call with
  | returned fixture result => exact valid
  | _ => trivial

/-- What a step of a call does to the bucket and to its own place. -/
structure StepValid
    (zone : LandingZone)
    (contents : Set Bytes)
    (bucket : Bucket)
    (result : Bucket × Call) : Prop where
  extends_ : Extends bucket result.1
  bucket : BucketValid zone contents result.1
  call : CallValid zone contents result.1 result.2

/-- A step that leaves the bucket as it is. -/
theorem StepValid.of_call
    {bucket : Bucket}
    (valid : BucketValid zone contents bucket)
    {call : Call}
    (callValid : CallValid zone contents bucket call) :
    StepValid zone contents bucket (bucket, call) :=
  ⟨Extends.refl bucket, valid, callValid⟩

/-- A put of a table: no manifest has its key. -/
theorem putTable_valid
    {bucket : Bucket}
    (valid : BucketValid zone contents bucket)
    {fixture : Fixture}
    {table : VerifiedTable}
    {remaining : List VerifiedTable}
    (uploading : Uploading zone contents bucket fixture table remaining)
    {created : Nat}
    (answer : PutAnswer)
    (time : Int) :
    StepValid zone contents bucket
      (Call.put zone (.putting fixture table remaining created table.content) bucket answer
        time) := by
  have verified := uploading.table_verified
  have required : table.name ∈ requiredTables := by
    obtain ⟨fixtureVerified, done, split, _⟩ := uploading
    rw [← fixtureVerified.names, split]
    exact List.mem_map_of_mem (List.mem_append_right done List.mem_cons_self)
  simp only [Call.put]
  generalize isKey : zone.tableKey fixture.manifest.batchId table.name = key
  generalize isObject : StoredObject.mk table.content
    (tableMetadata fixture.manifest.batchId table.entry.sha256) time = object
  have isBody : object.body = table.content := by rw [← isObject]
  have bodyKnown : object.body ∈ contents := by
    rw [isBody]
    exact verified.content
  have noManifest : forall batchId, key = zone.manifestKey batchId ->
      Exists (Covered zone contents bucket batchId object) := by
    intro batchId same
    rw [← isKey] at same
    exact absurd same (tableKey_ne_manifestKey required)
  have extended := extends_putObject bucket key object answer
  have bucketValid := valid.putObject bodyKnown noManifest answer
  cases outcome : putObject bucket key object answer with
  | mk after learned =>
      rw [outcome] at extended bucketValid
      cases learned with
      | created =>
          have stored := lookup_of_created (congrArg Prod.snd outcome)
          rw [outcome] at stored
          have present : TableStored zone after fixture table := by
            refine ⟨object, ?_, isBody⟩
            rw [isKey]
            exact stored
          exact ⟨extended, bucketValid, (uploading.extend extended).next present _⟩
      | conflict => exact ⟨extended, bucketValid, uploading.extend extended⟩
      | raised => exact ⟨extended, bucketValid, trivial⟩

/-- A put of a manifest: all tables of its fixture are stored. -/
theorem putManifest_valid
    {bucket : Bucket}
    (valid : BucketValid zone contents bucket)
    {fixture : Fixture}
    (verified : fixture.Verified zone contents)
    (tables : TablesStored zone bucket fixture)
    {created : Nat}
    (answer : PutAnswer)
    (time : Int) :
    StepValid zone contents bucket
      (Call.put zone (.puttingManifest fixture created) bucket answer time) := by
  simp only [Call.put]
  generalize isKey : zone.manifestKey fixture.manifest.batchId = key
  generalize isObject : StoredObject.mk fixture.manifestBody
    (manifestMetadata fixture.manifest.batchId (zone.readers.sha256 fixture.manifestBody))
    time = object
  have isBody : object.body = fixture.manifestBody := by rw [← isObject]
  have bodyKnown : object.body ∈ contents := by
    rw [isBody]
    exact verified.manifest.content
  have covered : forall batchId, key = zone.manifestKey batchId ->
      Exists (Covered zone contents bucket batchId object) := by
    intro batchId same
    rw [← isKey] at same
    have sameBatch := manifestKey_injective same
    subst sameBatch
    refine ⟨fixture, verified, rfl, isBody, ?_, tables⟩
    rw [isBody, ← isObject]
  have extended := extends_putObject bucket key object answer
  have bucketValid := valid.putObject bodyKnown covered answer
  cases outcome : putObject bucket key object answer with
  | mk after learned =>
      rw [outcome] at extended bucketValid
      have tablesAfter := tables.extend extended
      cases learned with
      | created =>
          have stored := lookup_of_created (congrArg Prod.snd outcome)
          rw [outcome] at stored
          have present : ManifestStored zone after fixture := by
            refine ⟨object, ?_, isBody⟩
            rw [isKey]
            exact stored
          exact ⟨extended, bucketValid, verified, tablesAfter, present⟩
      | conflict => exact ⟨extended, bucketValid, verified, tablesAfter⟩
      | raised => exact ⟨extended, bucketValid, trivial⟩

theorem Call.put_valid
    {bucket : Bucket}
    (valid : BucketValid zone contents bucket)
    {call : Call}
    (callValid : CallValid zone contents bucket call)
    (answer : PutAnswer)
    (time : Int) :
    StepValid zone contents bucket (call.put zone bucket answer time) := by
  cases call with
  | putting fixture table remaining created body =>
      obtain ⟨uploading, rfl⟩ := callValid
      exact putTable_valid valid uploading answer time
  | puttingManifest fixture created =>
      exact putManifest_valid valid callValid.1 callValid.2 answer time
  | starting => exact StepValid.of_call valid callValid
  | verifying manifestBody manifest verified remaining => exact StepValid.of_call valid callValid
  | rereading fixture table remaining created => exact StepValid.of_call valid callValid
  | comparing fixture table remaining created => exact StepValid.of_call valid callValid
  | committing fixture created => exact StepValid.of_call valid callValid
  | comparingManifest fixture created => exact StepValid.of_call valid callValid
  | returned fixture result => exact StepValid.of_call valid callValid
  | failed problem => exact StepValid.of_call valid callValid
  | crashed => exact StepValid.of_call valid callValid

/-- One step of a call. -/
theorem Call.step_valid
    (injective : Set.InjOn zone.readers.sha256 contents)
    {bucket : Bucket}
    (valid : BucketValid zone contents bucket)
    {call : Call}
    (callValid : CallValid zone contents bucket call)
    (directory : String)
    (action : Action contents) :
    StepValid zone contents bucket (call.step zone bucket directory action) := by
  cases action with
  | read reading =>
      exact StepValid.of_call valid (Call.read_valid injective callValid directory reading)
  | put answer time => exact Call.put_valid valid callValid answer time
  | get answered =>
      exact StepValid.of_call valid (Call.get_valid injective valid.bodies callValid answered)
  | crash => exact StepValid.of_call valid (Call.crash_valid callValid)

/-! ## Runs -/

theorem landingValid_initial : LandingValid zone contents (landingMachine zone contents).initial :=
  { bucket :=
      ⟨List.nodup_nil, fun _ _ present => absurd present.symm (Option.some_ne_none _),
        fun _ _ present => absurd present.symm (Option.some_ne_none _)⟩
    calls := fun _ member => absurd member List.not_mem_nil }

/-- Every event keeps the landing zone valid. -/
theorem landingValid_preserved (injective : Set.InjOn zone.readers.sha256 contents) :
    (landingMachine zone contents).Preserves (LandingValid zone contents) := by
  rintro landing event ⟨bucketValid, callsValid⟩
  cases event with
  | write directory =>
      refine ⟨bucketValid, fun writer member => ?_⟩
      rcases List.mem_append.mp member with old | new
      · exact callsValid writer old
      · rw [List.mem_singleton.mp new]
        trivial
  | act index action =>
      simp only [landingMachine, Landing.step]
      cases present : landing.writers[index]? with
      | none => exact ⟨bucketValid, callsValid⟩
      | some writer =>
          have own := callsValid writer (List.mem_of_getElem? present)
          have stepped := Call.step_valid injective bucketValid own writer.directory action
          refine ⟨stepped.bucket, fun other member => ?_⟩
          -- The other calls see the objects that this one adds.
          rcases List.mem_or_eq_of_mem_set member with old | rfl
          · exact (callsValid other old).extend stepped.extends_
          · exact stepped.call

theorem landingValid_run
    (injective : Set.InjOn zone.readers.sha256 contents)
    (events : List (LandingEvent contents)) :
    LandingValid zone contents ((landingMachine zone contents).run events) :=
  (landingValid_preserved injective).run landingValid_initial events

/-! ## What a reader of the bucket sees -/

/-- The tables that a manifest names are there, as it states them. -/
structure ManifestCovers
    (zone : LandingZone)
    (bucket : Bucket)
    (batchId : String)
    (manifest : LandingManifest) : Prop where
  batch : manifest.batchId = batchId
  tables : forall name, name ∈ requiredTables -> Exists fun entry => Exists fun object =>
    checkTableEntry manifest.tables name = .ok entry ∧
      bucket.lookup (zone.tableKey batchId name) = some object ∧
      zone.readers.sha256 object.body = entry.sha256 ∧
      (lineCount object.body : Int) = entry.rows

/-- The promise of the landing zone. -/
structure LandingSafe (zone : LandingZone) (contents : Set Bytes) (landing : Landing) :
    Prop where
  /-- Every manifest covers its tables. -/
  covered : forall batchId object,
    landing.bucket.lookup (zone.manifestKey batchId) = some object ->
      Exists fun json => Exists fun manifest =>
        zone.readers.loads object.body = some json ∧ checkManifest json = .ok manifest ∧
          ManifestCovers zone landing.bucket batchId manifest
  /-- A call that returned has its fixture in the bucket, byte for byte. -/
  returned : forall writer, writer ∈ landing.writers ->
    forall fixture result, writer.call = .returned fixture result ->
      fixture.Verified zone contents ∧ ManifestStored zone landing.bucket fixture ∧
        TablesStored zone landing.bucket fixture
  /-- Whoever has verified the fixture of a manifest finds its tables. -/
  unmixed : forall fixture : Fixture, fixture.Verified zone contents ->
    ManifestStored zone landing.bucket fixture -> TablesStored zone landing.bucket fixture

/-- A verified fixture has each required table. -/
theorem Fixture.Verified.table_of_required
    {fixture : Fixture}
    (verified : fixture.Verified zone contents)
    {name : String}
    (required : name ∈ requiredTables) :
    Exists fun table => table ∈ fixture.tables ∧ table.name = name := by
  rw [← verified.names] at required
  obtain ⟨table, member, isName⟩ := List.mem_map.mp required
  exact ⟨table, member, isName⟩

/-- The manifest is read off its body. -/
theorem ManifestRead.manifest_unique
    {body : Bytes}
    {left right : LandingManifest}
    (isLeft : ManifestRead zone contents body left)
    (isRight : ManifestRead zone contents body right) :
    left = right := by
  obtain ⟨leftJson, leftLoads, leftAccepted⟩ := isLeft.accepted
  obtain ⟨rightJson, rightLoads, rightAccepted⟩ := isRight.accepted
  have sameJson : leftJson = rightJson := Option.some.inj (leftLoads.symm.trans rightLoads)
  subst sameJson
  have same := (checkManifest_eq_ok_iff.mpr leftAccepted).symm.trans
    (checkManifest_eq_ok_iff.mpr rightAccepted)
  exact Except.ok.inj same

theorem Covered.covers
    {bucket : Bucket}
    {batchId : String}
    {object : StoredObject}
    {fixture : Fixture}
    (covered : Covered zone contents bucket batchId object fixture) :
    ManifestCovers zone bucket batchId fixture.manifest := by
  refine ⟨covered.batch, fun name required => ?_⟩
  obtain ⟨table, member, rfl⟩ := covered.verified.table_of_required required
  have verified := covered.verified.tables table member
  obtain ⟨stored, present, body⟩ := covered.tables table member
  rw [covered.batch] at present
  refine ⟨table.entry, stored, checkTableEntry_eq_ok_iff.mpr verified.entry, present, ?_, ?_⟩
  · rw [body]
    exact verified.checksum
  · rw [body]
    exact verified.rows

/-- Two fixtures with one manifest have the same tables. -/
theorem TablesStored.of_same_manifest
    (injective : Set.InjOn zone.readers.sha256 contents)
    {bucket : Bucket}
    {left right : Fixture}
    (isLeft : left.Verified zone contents)
    (isRight : right.Verified zone contents)
    (same : left.manifestBody = right.manifestBody)
    (stored : TablesStored zone bucket left) :
    TablesStored zone bucket right := by
  have leftRead := isLeft.manifest
  rw [same] at leftRead
  have sameManifest := leftRead.manifest_unique isRight.manifest
  intro table member
  have required : table.name ∈ requiredTables := by
    rw [← isRight.names]
    exact List.mem_map_of_mem member
  obtain ⟨other, isOther, sameName⟩ := isLeft.table_of_required required
  have verified := isRight.tables table member
  have otherVerified := isLeft.tables other isOther
  have sameEntry : other.entry = table.entry := by
    have otherEntry := checkTableEntry_eq_ok_iff.mpr otherVerified.entry
    have entry := checkTableEntry_eq_ok_iff.mpr verified.entry
    rw [sameManifest, sameName] at otherEntry
    exact Except.ok.inj (otherEntry.symm.trans entry)
  have sameContent : other.content = table.content := by
    refine injective otherVerified.content verified.content ?_
    rw [otherVerified.checksum, verified.checksum, sameEntry]
  obtain ⟨object, present, body⟩ := stored other isOther
  rw [sameManifest, sameName] at present
  exact ⟨object, present, body.trans sameContent⟩

theorem LandingValid.safe
    (injective : Set.InjOn zone.readers.sha256 contents)
    {landing : Landing}
    (valid : LandingValid zone contents landing) :
    LandingSafe zone contents landing where
  covered := by
    intro batchId object present
    obtain ⟨fixture, covered⟩ := valid.bucket.covered batchId object present
    obtain ⟨json, loads, accepted⟩ := covered.verified.manifest.accepted
    refine ⟨json, fixture.manifest, ?_, checkManifest_eq_ok_iff.mpr accepted, covered.covers⟩
    rw [covered.body]
    exact loads
  returned := by
    intro writer member fixture result isReturned
    have callValid := valid.calls writer member
    rw [isReturned] at callValid
    exact ⟨callValid.1, callValid.2.2, callValid.2.1⟩
  unmixed := by
    intro fixture verified stored
    obtain ⟨object, present, body⟩ := stored
    obtain ⟨other, covered⟩ := valid.bucket.covered _ object present
    exact TablesStored.of_same_manifest injective covered.verified verified
      (covered.body.symm.trans body) covered.tables

/-- In every interleaving of calls, with files that change and crashes at any point, a
manifest covers its tables, a call that returned has stored its fixture, and no manifest
stands over tables of two fixtures. -/
theorem landing_safe
    (zone : LandingZone)
    (contents : Set Bytes)
    (injective : Set.InjOn zone.readers.sha256 contents)
    (events : List (LandingEvent contents)) :
    LandingSafe zone contents ((landingMachine zone contents).run events) :=
  (landingValid_run injective events).safe injective

/-! A fixture of four tables with one row each. -/

/-- The bytes of a text of ASCII characters. -/
def ascii (text : String) : Bytes :=
  text.toList.map fun character => UInt8.ofNat character.toNat

def sampleRow : Bytes :=
  ascii "\x7b\"id\":1\x7d\n"

/-- The checksum of the row. -/
def sampleChecksum : String :=
  "51bc513113548e062ada62b03efea153cae2abdf46b051c551c3e62a4dfb88cf"

def sampleEntryText (table : String) : String :=
  "\"" ++ table ++ "\":\x7b\"file\":\"" ++ table ++ ".jsonl\",\"rows\":1,\"sha256\":\"" ++
    sampleChecksum ++ "\"\x7d"

def sampleManifest : Bytes :=
  ascii ("\x7b\"schema_version\":1,\"batch_id\":\"00000000000000a1\",\"tables\":\x7b" ++
    ",".intercalate (requiredTables.map sampleEntryText) ++ "\x7d\x7d")

def sampleEntry (table : String) : Json :=
  .object [("file", .string (tableFile table)), ("rows", .int 1),
    ("sha256", .string sampleChecksum)]

/-- What the manifest loads to. -/
def sampleJson : Json :=
  .object [("schema_version", .int 1), ("batch_id", .string "00000000000000a1"),
    ("tables", .object (requiredTables.map fun table => (table, sampleEntry table)))]

def sampleReaders : Readers where
  loads body := if body = sampleManifest then some sampleJson else none
  sha256 body :=
    if body = sampleRow then sampleChecksum
    else "36fa46e6cc8134c77b197629ce0de3fb23a0da2031cc9ec12121348987f5fe6d"

def sampleZone : LandingZone where
  readers := sampleReaders
  bucketName := "lakehouse"
  keyPrefix := "landing"

def sampleContents : Set Bytes :=
  {sampleManifest, sampleRow}

def readSampleRow : LandingEvent sampleContents :=
  .act 0 (.read (.content ⟨sampleRow, Or.inr rfl⟩))

def readSampleManifest : LandingEvent sampleContents :=
  .act 0 (.read (.content ⟨sampleManifest, Or.inl rfl⟩))

/-- A call that nothing disturbs. -/
def sampleEvents : List (LandingEvent sampleContents) :=
  let putNow : LandingEvent sampleContents := .act 0 (.put .answered 0)
  [.write "fixture", readSampleManifest,
    readSampleRow, readSampleRow, readSampleRow, readSampleRow,
    readSampleRow, putNow, readSampleRow, putNow, readSampleRow, putNow, readSampleRow, putNow,
    readSampleManifest, putNow]

theorem sampleReaders_injective : Set.InjOn sampleReaders.sha256 sampleContents := by
  have differs : sampleReaders.sha256 sampleManifest ≠ sampleReaders.sha256 sampleRow := by
    decide +kernel
  rintro left (isLeft | isLeft) right (isRight | isRight) same
  · rw [isLeft, isRight]
  · rw [isLeft, isRight] at same
    exact absurd same differs
  · rw [isLeft, isRight] at same
    exact absurd same.symm differs
  · rw [isLeft, isRight]

theorem landing_safe_one_call :
    LandingSafe sampleZone sampleContents
      ((landingMachine sampleZone sampleContents).run sampleEvents) :=
  landing_safe sampleZone sampleContents sampleReaders_injective sampleEvents

end Ingestion
end LakehouseOps
