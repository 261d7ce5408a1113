import LakehouseOps.Ingestion.WeatherLanding

/-!
# Weather audit

The audit of a landed object parses its bytes and derives the location, the checksum and
the date again. Landing on a filesystem audits the object that is already at its key.
-/

namespace LakehouseOps
namespace Ingestion
namespace WeatherAudit

open Library Library.Fallible
open WeatherLanding

variable {Double Timestamp : Type}

/-- The parts of Python that only the audit uses: decoding of other encodings, reading of
other datetimes, and the texts of values and errors. -/
structure Parsers (Double : Type) where
  decodeOther : ByteArray -> Except String Text
  fromisoformatOther : Text -> Except String (Date × Bool)
  str : Document Double -> Text
  jsonProblem : Text -> String

/-- What `json.loads` is given. -/
inductive Content
  | str (points : Text)
  | bytes (body : ByteArray)

/-- `body.decode(detect_encoding(body), "surrogatepass")`. Bytes are taken for UTF-8 if they
start with two ASCII characters that are not null. -/
def decode (parsers : Parsers Double) (body : ByteArray) : Except String Text :=
  match decodeUtf8 body with
  | some (first :: second :: rest) =>
      if (0 < first.val ∧ first.val < 128) ∧ 0 < second.val ∧ second.val < 128 then
        .ok (first :: second :: rest)
      else parsers.decodeOther body
  | _ => parsers.decodeOther body

/-- `json.loads(content)` -/
def loadsContent
    (python : Python Double Timestamp)
    (parsers : Parsers Double) : Content -> Except String (Document Double)
  | .str points =>
      if points.head? = some 0xfeff then
        .error "Unexpected UTF-8 BOM (decode using utf-8-sig): line 1 column 1 (char 0)"
      else (Document.loads python.floats points).elim (.error (parsers.jsonProblem points)) .ok
  | .bytes body =>
      match decode parsers body with
      | .error problem => .error problem
      | .ok points =>
          (Document.loads python.floats points).elim (.error (parsers.jsonProblem points)) .ok

/-- Whether a field is the given text. -/
def isText (field : Option (Document Double)) (expected : Text) : Bool :=
  match field with
  | some (.string value) => value = expected
  | _ => false

/-- The error, unless the condition holds. -/
def problemUnless (condition : Prop) [Decidable condition] (problem : String) : List String :=
  if condition then [] else [problem]

/-- `_validate_layout` -/
def validateLayout (path : PosixPath) : List String :=
  match path.parts with
  | [source, date, location, _] =>
      problemUnless (source = text "source=open_meteo") "path source must be open_meteo" ++
        (problemUnless (text "ingest_date=" <+: date) "path must contain ingest_date partition" ++
          problemUnless (text "location=" <+: location) "path must contain location partition")
  | _ => ["path must match source/date/location/checksum.json layout"]

/-- `datetime.fromisoformat(points)`: the date, and whether there is a time zone. -/
def fromisoformat (parsers : Parsers Double) (points : Text) : Except String (Date × Bool) :=
  match readUtcDatetime points with
  | some moment => .ok (moment.date, true)
  | none => parsers.fromisoformatOther points

/-- `str(ingested_at)`, where a missing field is `None`. -/
def strOf (parsers : Parsers Double) : Option (Document Double) -> Text
  | some (.string value) => value
  | some other => parsers.str other
  | none => text "None"

/-- `_validate_ingestion_date` -/
def validateIngestionDate
    (parsers : Parsers Double)
    (partition : Text)
    (ingestedAt : Option (Document Double)) : List String :=
  match fromisoformat parsers (strOf parsers ingestedAt) with
  | .error problem => ["invalid ingested_at: " ++ problem]
  | .ok (date, aware) =>
      if aware = false then ["invalid ingested_at: timestamp has no timezone"]
      else
        problemUnless (partition = text "ingest_date=" ++ date.isoformat)
          "ingest_date partition does not match ingested_at"

/-- `location_data[key]` -/
def requireField (data : List (Text × Document Double)) (key : String) :
    Except String (Document Double) :=
  match data.lookup (text key) with
  | some value => .ok value
  | none => .error ("'" ++ key ++ "'")

/-- The location of the ingestion. -/
def auditedLocation
    (python : Python Double Timestamp)
    (ingestion : List (Text × Document Double)) : Except String (Location Double) :=
  match ingestion.lookup (text "location") with
  | some (.object data) =>
      match data.lookup (text "name") with
      | some (.string name) => do
          let latitude <- requireField data "latitude"
          let longitude <- requireField data "longitude"
          makeLocation python name latitude longitude
      | _ => .error "ingestion location name must be a string"
  | _ => .error "ingestion location must be an object"

/-- `_validate_document`; the checksum of a payload with surrogates is an error that the
audit lets through. -/
def validateDocument
    (python : Python Double Timestamp)
    (parsers : Parsers Double)
    (path : PosixPath)
    (ingestion sourcePayload : List (Text × Document Double))
    (metadataChecksum : Option Text) : Except String (List String) :=
  let sourceErrors := problemUnless (isText (ingestion.lookup (text "source")) (text "open_meteo") = true)
    "ingestion source must be open_meteo"
  match (auditedLocation python ingestion >>= fun location => fromSource location sourcePayload) with
  | .error problem => .ok (sourceErrors ++ ["invalid weather payload: " ++ problem])
  | .ok payload => do
      let expectedChecksum <- calculateObjectChecksum python payload
      let partitionErrors := match path.parts with
        | [_, date, location, _] =>
            problemUnless (location = text "location=" ++ payload.location.name)
              "location partition does not match payload" ++
                validateIngestionDate parsers date (ingestion.lookup (text "ingested_at"))
        | _ => []
      return sourceErrors ++
        problemUnless (isText (ingestion.lookup (text "object_checksum")) expectedChecksum = true)
          "declared checksum does not match payload" ++
        problemUnless (path.stem = expectedChecksum) "filename checksum does not match payload" ++
        problemUnless (metadataChecksum = none ∨ metadataChecksum = some expectedChecksum)
          "object metadata checksum does not match payload" ++
        partitionErrors

/-- `AuditItem` -/
structure AuditItem where
  path : Text
  valid : Bool
  errors : List String
  deriving DecidableEq

def auditItem (relative : PosixPath) (errors : List String) : AuditItem where
  path := relative.asPosix
  valid := errors.isEmpty
  errors := errors

/-- `audit_landing_content` -/
def auditLandingContent
    (python : Python Double Timestamp)
    (parsers : Parsers Double)
    (relative : PosixPath)
    (content : Content)
    (metadataChecksum : Option Text) : Except String AuditItem :=
  let errors := validateLayout relative
  match loadsContent python parsers content with
  | .error problem => .ok (auditItem relative (errors ++ ["cannot read JSON: " ++ problem]))
  | .ok (.object document) =>
      match document.lookup (text "ingestion"), document.lookup (text "payload") with
      | some (.object ingestion), some (.object sourcePayload) => do
          let found <- validateDocument python parsers relative ingestion sourcePayload
            metadataChecksum
          return auditItem relative (errors ++ found)
      | some (.object _), _ =>
          .ok (auditItem relative (errors ++ ["payload must be an object"]))
      | _, some (.object _) =>
          .ok (auditItem relative (errors ++ ["ingestion must be an object"]))
      | _, _ =>
          .ok (auditItem relative
            (errors ++ ["ingestion must be an object", "payload must be an object"]))
  | .ok _ => .ok (auditItem relative (errors ++ ["document must be a JSON object"]))

/-! ## Landing on a filesystem -/

/-- What is at a path. -/
inductive Stored
  | unreadable
  | file (body : ByteArray)

/-- `LandingResult` -/
structure LandingResult where
  path : Text
  checksum : Text
  created : Bool

/-- A path in the text of an error. -/
def shown (points : Text) : String :=
  String.ofList (points.map fun point => Char.ofNat point.val)

/-- `FileLandingZone._verified_replay`, with paths relative to the root. -/
def verifiedReplay
    (python : Python Double Timestamp)
    (parsers : Parsers Double)
    (destination : Stored)
    (landingObject : LandingObject) : Except String LandingResult :=
  match destination with
  | .unreadable => .error ("existing filesystem object is unreadable: " ++ shown landingObject.key)
  | .file existingBody => do
      let item <- auditLandingContent python parsers (.ofText landingObject.key)
        (.bytes existingBody) none
      reject (item.valid = false)
        ("existing filesystem object conflicts with forecast: " ++ shown landingObject.key ++ "; " ++
          "; ".intercalate item.errors)
      return { path := landingObject.key, checksum := landingObject.checksum, created := false }

/-- `FileLandingZone.write`. The second state is what the link finds: another writer may
have linked its own object after the first look. -/
def write
    (python : Python Double Timestamp)
    (parsers : Parsers Double)
    (before atLink : Text -> Option Stored)
    (payload : WeatherPayload Double)
    (ingestedAt : Option Timestamp)
    (now : Timestamp) : Except String ((Text -> Option Stored) × LandingResult) := do
  let landingObject <- prepareLandingObject python payload ingestedAt now
  match before landingObject.key with
  | some existing => do
      let result <- verifiedReplay python parsers existing landingObject
      return (before, result)
  | none =>
      match atLink landingObject.key with
      | some existing => do
          let result <- verifiedReplay python parsers existing landingObject
          return (atLink, result)
      | none =>
          return (Function.update atLink landingObject.key (some (.file landingObject.body)),
            { path := landingObject.key, checksum := landingObject.checksum, created := true })

end WeatherAudit
end Ingestion
end LakehouseOps
