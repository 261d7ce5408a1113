import LakehouseOps.Library.Machine
import LakehouseOps.Ingestion.CommerceManifest

/-!
# The commerce landing zone

A call of `write` verifies a fixture, stores its four tables one after the other,
each only where no object has its key, and stores the manifest last. Any number of
calls share a bucket and take their steps in any order. A fixture may change on disk
at any time, so every read returns what its event says; a request to the bucket may
be refused, or be done and its answer lost, or be sent again by the client library;
and a call may crash between any two steps.
-/

namespace LakehouseOps
namespace Ingestion

open Library

/-! ## The bucket -/

structure StoredObject where
  body : Bytes
  metadata : List (String × String)
  lastModified : Int
  deriving DecidableEq

/-- The objects by their keys. -/
abbrev Bucket := List (String × StoredObject)

/-- Store an object, where no object has the key. -/
def putIfAbsent (bucket : Bucket) (key : String) (object : StoredObject) : Bucket :=
  match bucket.lookup key with
  | some _ => bucket
  | none => bucket ++ [(key, object)]

/-- How a conditional put can end. -/
inductive PutAnswer
  | answered
  /-- An error; nothing was stored. -/
  | refused
  /-- An error; the put was done. -/
  | lost
  /-- The put was done, and sent again when its answer was lost. -/
  | resent
  deriving DecidableEq

/-- What the client learns from a put. -/
inductive PutOutcome
  | created
  | conflict
  | raised
  deriving DecidableEq

/-- A put with `IfNoneMatch="*"`. -/
def putObject (bucket : Bucket) (key : String) (object : StoredObject) :
    PutAnswer -> Bucket × PutOutcome
  | .answered =>
      (putIfAbsent bucket key object,
        if (bucket.lookup key).isSome then .conflict else .created)
  | .refused => (bucket, .raised)
  | .lost => (putIfAbsent bucket key object, .raised)
  | .resent => (putIfAbsent bucket key object, .conflict)

/-! ## Keys -/

/-- The landing zone: its readers, its bucket and the start of its keys. -/
structure LandingZone where
  readers : Readers
  bucketName : String
  keyPrefix : String

namespace LandingZone

variable (zone : LandingZone)

/-- The start of all keys of commerce batches. -/
def root : String :=
  if zone.keyPrefix = "" then "source=commerce" else zone.keyPrefix ++ "/source=commerce"

def baseKey (batchId : String) : String :=
  zone.root ++ "/batch_id=" ++ batchId

def objectKey (batchId name : String) : String :=
  zone.baseKey batchId ++ "/" ++ name

def tableKey (batchId table : String) : String :=
  zone.objectKey batchId (tableFile table)

def manifestKey (batchId : String) : String :=
  zone.objectKey batchId "manifest.json"

end LandingZone

/-! ## A call of `write` -/

/-- A table of a fixture with the content that was verified. -/
structure VerifiedTable where
  name : String
  entry : TableEntry
  content : Bytes
  deriving DecidableEq

/-- A fixture as `_load_fixture` verified it. -/
structure Fixture where
  manifestBody : Bytes
  manifest : LandingManifest
  tables : List VerifiedTable

/-- `CommerceLandingResult` -/
structure CommerceLandingResult where
  batchId : String
  path : String
  objects : Nat
  created : Nat
  deriving DecidableEq

/-- Where a call of `write` stands. -/
inductive Call
  /-- About to read the manifest. -/
  | starting
  /-- About to verify the first of the remaining tables. -/
  | verifying (manifestBody : Bytes) (manifest : LandingManifest)
      (verified : List VerifiedTable) (remaining : List String)
  /-- About to read a table again. -/
  | rereading (fixture : Fixture) (table : VerifiedTable) (remaining : List VerifiedTable)
      (created : Nat)
  /-- About to store a table. -/
  | putting (fixture : Fixture) (table : VerifiedTable) (remaining : List VerifiedTable)
      (created : Nat) (body : Bytes)
  /-- About to compare a table with the object that has its key. -/
  | comparing (fixture : Fixture) (table : VerifiedTable) (remaining : List VerifiedTable)
      (created : Nat)
  /-- About to read the manifest again. -/
  | committing (fixture : Fixture) (created : Nat)
  /-- About to store the manifest. -/
  | puttingManifest (fixture : Fixture) (created : Nat)
  /-- About to compare the manifest with the object that has its key. -/
  | comparingManifest (fixture : Fixture) (created : Nat)
  | returned (fixture : Fixture) (result : CommerceLandingResult)
  | failed (problem : String)
  | crashed

/-- What reading a file can give. The contents are those that occur in the run. -/
inductive Reading (contents : Set Bytes)
  | content (body : contents)
  | symlink
  | missing
  | unreadable

/-- A step of a call, with what the environment does. -/
inductive Action (contents : Set Bytes)
  | read (reading : Reading contents)
  | put (answer : PutAnswer) (time : Int)
  | get (answered : Bool)
  | crash

section Steps

variable {contents : Set Bytes} (zone : LandingZone)

/-- Go on with the next table, or with the manifest after the last. -/
def nextUpload (fixture : Fixture) (created : Nat) : List VerifiedTable -> Call
  | [] => .committing fixture created
  | table :: remaining => .rereading fixture table remaining created

/-- Go on with the next table to verify, or with the uploads after the last. -/
def nextVerification
    (manifestBody : Bytes)
    (manifest : LandingManifest)
    (verified : List VerifiedTable) : List String -> Call
  | [] =>
      let fixture := { manifestBody, manifest, tables := verified }
      nextUpload fixture 0 verified
  | remaining => .verifying manifestBody manifest verified remaining

/-- `_read_manifest_bytes`, with the text of an error of the system. -/
def readManifestBytes (systemError : String) : Reading contents -> Except String Bytes
  | .content body =>
      if maxCommerceManifestBytes < body.val.length then .error "fixture manifest exceeds 1 MiB"
      else .ok body
  | _ => .error systemError

/-- The first read of `_load_fixture`. -/
def loadManifest (directory : String) (reading : Reading contents) : Except String Call := do
  match reading with
  | .symlink =>
      .error ("fixture manifest symlink is not allowed: " ++ directory ++ "/manifest.json")
  | other =>
      let body <- readManifestBytes "fixture manifest is unreadable" other
      match zone.readers.loads body with
      | none => .error "fixture manifest is unreadable"
      | some json =>
          let manifest <- checkManifest json
          return nextVerification body manifest [] requiredTables

/-- The read of a table in `_load_fixture`. -/
def verifyTable
    (directory : String)
    (manifestBody : Bytes)
    (manifest : LandingManifest)
    (verified : List VerifiedTable)
    (name : String)
    (remaining : List String)
    (reading : Reading contents) : Except String Call := do
  let entry <- checkTableEntry manifest.tables name
  let path := directory ++ "/" ++ tableFile name
  match reading with
  | .symlink => .error ("fixture table symlink is not allowed: " ++ path)
  | .missing => .error ("fixture checksum verification failed: " ++ path)
  | .unreadable => .error ("unreadable: " ++ path)
  | .content body =>
      checkTableContent zone.readers path entry body
      return nextVerification manifestBody manifest
        (verified ++ [{ name, entry, content := body }]) remaining

/-- `_read_verified_bytes` -/
def readVerifiedBytes (directory : String) (table : VerifiedTable) :
    Reading contents -> Except String Bytes
  | .content body =>
      if zone.readers.sha256 body = table.entry.sha256 then .ok body
      else .error ("fixture changed during upload: " ++ directory ++ "/" ++ tableFile table.name)
  | _ => .error ("fixture changed during upload: " ++ directory ++ "/" ++ tableFile table.name)

/-- The read of the manifest before it is stored. -/
def readManifestAgain (fixture : Fixture) (created : Nat) (reading : Reading contents) :
    Except String Call := do
  let body <- readManifestBytes "fixture manifest changed during upload" reading
  if body = fixture.manifestBody then return .puttingManifest fixture created
  else .error "fixture manifest changed during upload"

/-- A failure ends the call. -/
def orFailed : Except String Call -> Call
  | .ok call => call
  | .error problem => .failed problem

/-- A call reads a file. -/
def Call.read (call : Call) (directory : String) (reading : Reading contents) : Call :=
  match call with
  | .starting => orFailed (loadManifest zone directory reading)
  | .verifying manifestBody manifest verified (name :: remaining) =>
      orFailed (verifyTable zone directory manifestBody manifest verified name remaining reading)
  | .rereading fixture table remaining created =>
      orFailed <| (readVerifiedBytes zone directory table reading).map fun body =>
        .putting fixture table remaining created body
  | .committing fixture created => orFailed (readManifestAgain fixture created reading)
  | other => other

/-- The metadata of a table object. -/
def tableMetadata (batchId checksum : String) : List (String × String) :=
  [("batch-id", batchId), ("source", "commerce"), ("sha256", checksum)]

/-- The metadata of a manifest object. -/
def manifestMetadata (batchId checksum : String) : List (String × String) :=
  [("batch-id", batchId), ("source", "commerce"), ("commit-marker", "true"),
    ("sha256", checksum)]

/-- The result of a call whose manifest is stored. -/
def finish (fixture : Fixture) (created : Nat) : Call :=
  .returned fixture
    { batchId := fixture.manifest.batchId
      path := "s3://" ++ zone.bucketName ++ "/" ++ zone.baseKey fixture.manifest.batchId ++ "/"
      objects := fixture.tables.length + 1
      created }

/-- The put of `_put_once`. -/
def Call.put (call : Call) (bucket : Bucket) (answer : PutAnswer) (time : Int) :
    Bucket × Call :=
  match call with
  | .putting fixture table remaining created body =>
      let batchId := fixture.manifest.batchId
      let object :=
        { body, metadata := tableMetadata batchId table.entry.sha256, lastModified := time }
      match putObject bucket (zone.tableKey batchId table.name) object answer with
      | (bucket, .created) => (bucket, nextUpload fixture (created + 1) remaining)
      | (bucket, .conflict) => (bucket, .comparing fixture table remaining created)
      | (bucket, .raised) => (bucket, .failed "put_object failed")
  | .puttingManifest fixture created =>
      let batchId := fixture.manifest.batchId
      let checksum := zone.readers.sha256 fixture.manifestBody
      let object :=
        { body := fixture.manifestBody, metadata := manifestMetadata batchId checksum,
          lastModified := time }
      match putObject bucket (zone.manifestKey batchId) object answer with
      | (bucket, .created) => (bucket, finish zone fixture (created + 1))
      | (bucket, .conflict) => (bucket, .comparingManifest fixture created)
      | (bucket, .raised) => (bucket, .failed "put_object failed")
  | other => (bucket, other)

/-- The comparison of `_put_once` with the object that has the key. -/
def compareExisting (bucket : Bucket) (key checksum : String) (answered : Bool) :
    Except String Unit :=
  if answered then
    match bucket.lookup key with
    | none => .error "get_object failed"
    | some existing =>
        if existing.metadata.lookup "sha256" = some checksum ∧
            zone.readers.sha256 existing.body = checksum then .ok ()
        else .error ("existing S3 object conflicts with fixture: " ++ key)
  else .error "get_object failed"

/-- The rest of `_put_once` after a conflict. -/
def Call.get (call : Call) (bucket : Bucket) (answered : Bool) : Call :=
  match call with
  | .comparing fixture table remaining created =>
      let key := zone.tableKey fixture.manifest.batchId table.name
      orFailed <| (compareExisting zone bucket key table.entry.sha256 answered).map fun _ =>
        nextUpload fixture created remaining
  | .comparingManifest fixture created =>
      let key := zone.manifestKey fixture.manifest.batchId
      let checksum := zone.readers.sha256 fixture.manifestBody
      orFailed <| (compareExisting zone bucket key checksum answered).map fun _ =>
        finish zone fixture created
  | other => other

/-- A crash, unless the call is over. -/
def Call.crash : Call -> Call
  | .returned fixture result => .returned fixture result
  | .failed problem => .failed problem
  | _ => .crashed

/-- One step of a call. A step that the call is not about to take does nothing. -/
def Call.step (call : Call) (bucket : Bucket) (directory : String) :
    Action contents -> Bucket × Call
  | .read reading => (bucket, call.read zone directory reading)
  | .put answer time => call.put zone bucket answer time
  | .get answered => (bucket, call.get zone bucket answered)
  | .crash => (bucket, call.crash)

end Steps

/-! ## The calls together -/

/-- A call of `write` with the directory of its fixture. -/
structure Writer where
  directory : String
  call : Call

structure Landing where
  bucket : Bucket
  writers : List Writer

/-- A new call begins, or a call takes a step. -/
inductive LandingEvent (contents : Set Bytes)
  | write (directory : String)
  | act (index : Nat) (action : Action contents)

/-- One event of the landing zone. -/
def Landing.step {contents : Set Bytes} (zone : LandingZone) (landing : Landing) :
    LandingEvent contents -> Landing
  | .write directory =>
      { landing with writers := landing.writers ++ [{ directory, call := .starting }] }
  | .act index action =>
      match landing.writers[index]? with
      | none => landing
      | some writer =>
          let (bucket, call) := writer.call.step zone landing.bucket writer.directory action
          { bucket, writers := landing.writers.set index { writer with call } }

/-- The landing zone over an empty bucket. -/
def landingMachine (zone : LandingZone) (contents : Set Bytes) :
    Machine Landing (LandingEvent contents) where
  initial := { bucket := [], writers := [] }
  step := Landing.step zone

end Ingestion
end LakehouseOps
