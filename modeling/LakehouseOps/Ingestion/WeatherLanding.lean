import LakehouseOps.Library.CanonicalJson
import LakehouseOps.Library.Fallible
import LakehouseOps.Library.IsoFormat
import LakehouseOps.Library.PosixPath

/-!
# Weather landing

A forecast for a location becomes one object, whose key has the date of ingestion, the
location and a checksum of the forecast. The checksum leaves out the time that the
source took to compute the forecast.
-/

namespace LakehouseOps
namespace Ingestion
namespace WeatherLanding

open Library Library.Fallible

/-- The parts of Python that landing uses: characters, floats, digests and datetimes. -/
structure Python (Double Timestamp : Type) where
  isalnum : CodePoint -> Bool
  lower : Text -> Text
  floats : FloatFormat Double
  /-- `-bound <= value <= bound` -/
  within : Nat -> Double -> Bool
  /-- `hashlib.sha256(body).hexdigest()` -/
  sha256 : ByteArray -> Text
  aware : Timestamp -> Bool
  /-- `timestamp.astimezone(UTC)`, where it has a year from 1 to 9999. -/
  astimezoneUtc : Timestamp -> Option UtcDatetime

variable {Double Timestamp : Type}

/-! ## Locations -/

/-- `Location`; the coordinates are numbers. -/
structure Location (Double : Type) where
  name : Text
  latitude : Document Double
  longitude : Document Double

/-- `name.strip().lower().replace(" ", "-")` -/
def normalizedName (python : Python Double Timestamp) (name : Text) : Text :=
  (python.lower (stripPoints name)).map fun point =>
    if point = char ' ' then char '-' else point

/-- The name of the type of a document. -/
def typeName : Document Double -> String
  | .null => "NoneType"
  | .bool _ => "bool"
  | .int _ => "int"
  | .float _ => "float"
  | .string _ => "str"
  | .array _ => "list"
  | .object _ => "dict"

/-- `-bound <= value <= bound`; only numbers can be compared, and a boolean is one. -/
def withinBound
    (python : Python Double Timestamp)
    (bound : Nat) : Document Double -> Except String Bool
  | .bool _ => .ok true
  | .int value => .ok (-(bound : Int) ≤ value && value ≤ bound)
  | .float value => .ok (python.within bound value)
  | other => .error ("'<=' not supported between instances of 'int' and '" ++ typeName other ++ "'")

/-- `Location.__post_init__` -/
def makeLocation
    (python : Python Double Timestamp)
    (name : Text)
    (latitude longitude : Document Double) : Except String (Location Double) := do
  let normalized := normalizedName python name
  reject (normalized = [] ∨ ¬(normalized.all fun point =>
      python.isalnum point || point = char '-' || point = char '_') = true)
    "location name must contain only letters, numbers, '-' or '_'"
  let latitudeWithin <- withinBound python 90 latitude
  reject (latitudeWithin = false) "latitude must be between -90 and 90"
  let longitudeWithin <- withinBound python 180 longitude
  reject (longitudeWithin = false) "longitude must be between -180 and 180"
  return { name := normalized, latitude, longitude }

/-! ## Payloads -/

/-- `WeatherPayload`; the source payload is a dictionary. -/
structure WeatherPayload (Double : Type) where
  location : Location Double
  sourcePayload : List (Text × Document Double)

/-- The series that each hour has a value of. -/
def requiredSeries : List String :=
  ["temperature_2m", "relative_humidity_2m", "precipitation", "wind_speed_10m"]

/-- The check of one series. -/
def checkSeries
    (hourly : List (Text × Document Double))
    (expectedLength : Nat)
    (seriesName : String) : Except String Unit :=
  match hourly.lookup (text seriesName) with
  | some (.array series) =>
      reject (series.length ≠ expectedLength)
        ("hourly series " ++ seriesName ++ " has " ++ toString series.length ++
          " values; expected " ++ toString expectedLength)
  | _ => .error ("missing hourly series: " ++ seriesName)

/-- `WeatherPayload.from_source` -/
def fromSource
    (location : Location Double)
    (payload : List (Text × Document Double)) : Except String (WeatherPayload Double) :=
  match payload.lookup (text "hourly") with
  | some (.object hourly) =>
      match hourly.lookup (text "time") with
      | some (.array times) => do
          reject (times = []) "response field 'hourly.time' must be a non-empty list"
          requiredSeries.forM (checkSeries hourly times.length)
          return { location, sourcePayload := payload }
      | _ => .error "response field 'hourly.time' must be a non-empty list"
  | _ => .error "response field 'hourly' must be an object"

/-! ## Objects -/

/-- The payload without what differs between two answers with the same forecast. -/
def stableSourcePayload (payload : List (Text × Document Double)) :
    List (Text × Document Double) :=
  payload.filter fun entry => entry.1 ≠ text "generationtime_ms"

def locationFields (location : Location Double) : List (Text × Document Double) :=
  [(text "name", .string location.name), (text "latitude", location.latitude),
    (text "longitude", location.longitude)]

/-- `object_identity` -/
def objectIdentity (payload : WeatherPayload Double) : List (Text × Document Double) :=
  [(text "source", .string (text "open_meteo")),
    (text "location", .object (locationFields payload.location)),
    (text "payload", .object (stableSourcePayload payload.sourcePayload))]

/-- The bytes of a text; there are none for a surrogate. -/
def encode (points : Text) : Except String ByteArray :=
  match encodeUtf8 points with
  | some bytes => .ok bytes
  | none => .error "surrogates not allowed"

/-- `calculate_object_checksum` -/
def calculateObjectChecksum
    (python : Python Double Timestamp)
    (payload : WeatherPayload Double) : Except String Text := do
  let canonicalIdentity <- encode (Document.dumps python.floats (.object (objectIdentity payload)))
  return python.sha256 canonicalIdentity

/-- `LandingObject` -/
structure LandingObject where
  key : Text
  checksum : Text
  body : ByteArray

def objectKey (date : Date) (name checksum : Text) : Text :=
  text "source=open_meteo/" ++ (text "ingest_date=" ++ date.isoformat ++ text "/") ++
    (text "location=" ++ name ++ text "/") ++ (checksum ++ text ".json")

/-- The description of the ingestion in the document. -/
def ingestionFields
    (location : Location Double)
    (timestamp : UtcDatetime)
    (checksum : Text) : List (Text × Document Double) :=
  [(text "source", .string (text "open_meteo")),
    (text "ingested_at", .string timestamp.isoformat),
    (text "location", .object (locationFields location)),
    (text "object_checksum", .string checksum)]

/-- `document` -/
def landingDocument
    (payload : WeatherPayload Double)
    (timestamp : UtcDatetime)
    (checksum : Text) : List (Text × Document Double) :=
  [(text "ingestion", .object (ingestionFields payload.location timestamp checksum)),
    (text "payload", .object payload.sourcePayload)]

/-- `prepare_landing_object`; without a time of ingestion it is now. -/
def prepareLandingObject
    (python : Python Double Timestamp)
    (payload : WeatherPayload Double)
    (ingestedAt : Option Timestamp)
    (now : Timestamp) : Except String LandingObject := do
  let timestamp := ingestedAt.getD now
  reject (python.aware timestamp = false) "ingested_at must be timezone-aware"
  let timestamp <- (python.astimezoneUtc timestamp).elim (.error "date value out of range") .ok
  let checksum <- calculateObjectChecksum python payload
  let body <- encode
    (Document.dumps python.floats (.object (landingDocument payload timestamp checksum)))
  return { key := objectKey timestamp.date payload.location.name checksum, checksum, body }

end WeatherLanding
end Ingestion
end LakehouseOps
