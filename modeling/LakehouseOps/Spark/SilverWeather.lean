import Mathlib.Data.Prod.Lex
import Mathlib.Data.String.Basic
import Mathlib.Order.WithBot
import LakehouseOps.Library.Json
import LakehouseOps.Spark.BronzeWeather

/-!
# Weather silver

A run reads the whole bronze table. Of the rows that pass the quality rules it merges
the survivor of each place and hour into the silver table, and the others into the
table of rejects.
-/

namespace LakehouseOps
namespace Spark
namespace SilverWeather

open Library Library.Table
open BronzeWeather

variable {Number : Type}

/-! ## Quality -/

/-- What the job uses of Spark's doubles. -/
structure Doubles (Number : Type) where
  ofInt : Int -> Number
  lessEq : Number -> Number -> Bool
  less : Number -> Number -> Bool

/-- `trim`, which removes spaces. -/
def trim (text : String) : List Char :=
  ((text.toList.dropWhile (· = ' ')).reverse.dropWhile (· = ' ')).reverse

/-- A text that is null or blank. -/
def blank (text : Option String) : Bool :=
  match text with
  | none => true
  | some text => (trim text).length = 0

/-- A number that is null or not between two bounds. -/
def outside (doubles : Doubles Number) (low high : Int) (value : Option Number) : Bool :=
  match value with
  | none => true
  | some value =>
      !(doubles.lessEq (doubles.ofInt low) value && doubles.lessEq value (doubles.ofInt high))

/-- A number that is null or negative. -/
def negative (doubles : Doubles Number) (value : Option Number) : Bool :=
  match value with
  | none => true
  | some value => doubles.less value (doubles.ofInt 0)

/-- `quality_errors` -/
def qualityErrors (doubles : Doubles Number) (row : BronzeRow Number) : List String :=
  [(blank row.objectChecksum, "missing_object_checksum"),
    (blank row.locationName, "missing_location_name"),
    (outside doubles (-90) 90 row.latitude, "latitude_out_of_range"),
    (outside doubles (-180) 180 row.longitude, "longitude_out_of_range"),
    (row.ingestedAt.isNone, "missing_ingested_at"),
    (row.observedAt.isNone, "missing_observed_at"),
    (outside doubles (-100) 70 row.temperature2m, "temperature_out_of_range"),
    (outside doubles 0 100 row.relativeHumidity2m, "humidity_out_of_range"),
    (negative doubles row.precipitation, "negative_precipitation"),
    (negative doubles row.windSpeed10m, "negative_wind_speed")].filterMap fun candidate =>
      if candidate.1 then some candidate.2 else none

/-- A bronze row with its quality errors. -/
structure ClassifiedRow (Number : Type) where
  row : BronzeRow Number
  qualityErrors : List String

/-- `classify` -/
def classify (doubles : Doubles Number) (source : List (BronzeRow Number)) :
    List (ClassifiedRow Number) :=
  source.map fun row => { row, qualityErrors := qualityErrors doubles row }

/-! ## Survivors -/

/-- The columns of a partition of `survivor_order`, on which the silver table is merged. -/
abbrev Place := Option String × Option Int

def place (row : BronzeRow Number) : Place :=
  (row.locationName, row.observedAt)

/-- The columns by which a partition is ordered; null is the least. -/
abbrev Recency := WithBot Int ×ₗ WithBot String

def recency (row : BronzeRow Number) : Recency :=
  toLex (row.ingestedAt, row.objectChecksum)

/-- `select_survivors`: the first row of each partition, the latest ones first. -/
def selectSurvivors (valid : List (ClassifiedRow Number)) : List (BronzeRow Number) :=
  windowOver place (fun row => OrderDual.toDual (recency row)) (List.take 1)
    (valid.map ClassifiedRow.row)

/-! ## Rejects -/

/-- A value in a JSON object. Times are written to the millisecond. -/
inductive Cell (Number : Type)
  | text (value : String)
  | double (value : Number)
  | time (milliseconds : Int)
  deriving DecidableEq

/-- A time in milliseconds, from microseconds. -/
def timeCell (microseconds : Int) : Cell Number :=
  .time (microseconds / 1000)

/-- The columns of a row. -/
def columns (row : BronzeRow Number) : List (String × Option (Cell Number)) :=
  [("object_checksum", row.objectChecksum.map .text), ("source", row.source.map .text),
    ("ingested_at", row.ingestedAt.map timeCell), ("location_name", row.locationName.map .text),
    ("latitude", row.latitude.map .double), ("longitude", row.longitude.map .double),
    ("observed_at", row.observedAt.map timeCell),
    ("temperature_2m", row.temperature2m.map .double),
    ("relative_humidity_2m", row.relativeHumidity2m.map .double),
    ("precipitation", row.precipitation.map .double),
    ("wind_speed_10m", row.windSpeed10m.map .double)]

/-- `to_json(struct(..))`, which leaves out the columns that are null. -/
def toJson (row : BronzeRow Number) : List (String × Cell Number) :=
  presentFields (columns row)

structure RejectRow (Number : Type) where
  row : BronzeRow Number
  qualityErrors : List String
  rejectId : String
  deriving DecidableEq

/-- `sha2` of the text of a JSON object. -/
abbrev Sha2 (Number : Type) := List (String × Cell Number) -> String

/-- `select_rejects` -/
def selectRejects (sha2 : Sha2 Number) (classified : List (ClassifiedRow Number)) :
    List (RejectRow Number) :=
  distinctBy RejectRow.rejectId
    ((classified.filter fun entry => 0 < entry.qualityErrors.length).map fun entry =>
      { row := entry.row
        qualityErrors := entry.qualityErrors
        rejectId := sha2 (toJson entry.row) })

/-! ## The job -/

structure Tables (Number : Type) where
  bronze : List (BronzeRow Number)
  silver : List (BronzeRow Number)
  rejects : List (RejectRow Number)

structure SilverReport where
  bronzeRows : Nat
  validRows : Nat
  rejectedRows : Nat
  duplicateRows : Int
  silverRowsBefore : Nat
  silverRowsAfter : Nat
  rejectRowsBefore : Nat
  rejectRowsAfter : Nat
  deriving DecidableEq

/-- The condition of the merge into silver. -/
def samePlace (target source : BronzeRow Number) : Bool :=
  sqlEq target.locationName source.locationName && sqlEq target.observedAt source.observedAt

/-- A matched row is replaced when its checksum differs. -/
def replaceChanged (target source : BronzeRow Number) : BronzeRow Number :=
  if sqlNe target.objectChecksum source.objectChecksum then source else target

/-- The condition of the merge into the rejects. -/
def sameReject (target source : RejectRow Number) : Bool :=
  target.rejectId = source.rejectId

/-- `write_silver`. A merge in which a target row matches several source rows fails. -/
def writeSilver
    (doubles : Doubles Number)
    (sha2 : Sha2 Number)
    (tables : Tables Number) : Option (Tables Number × SilverReport) := do
  let classified := classify doubles tables.bronze
  let valid := classified.filter fun entry => entry.qualityErrors.length = 0
  let rejected := selectRejects sha2 classified
  let survivors := selectSurvivors valid
  let silver <- merge samePlace replaceChanged (fun _ => true) id tables.silver survivors
  let rejects := mergeInsert sameReject tables.rejects rejected
  return ({ bronze := tables.bronze, silver, rejects },
    { bronzeRows := classified.length
      validRows := valid.length
      rejectedRows := rejected.length
      duplicateRows := valid.length - survivors.length
      silverRowsBefore := tables.silver.length
      silverRowsAfter := silver.length
      rejectRowsBefore := tables.rejects.length
      rejectRowsAfter := rejects.length })

/-- Rows are appended to bronze, or the job runs. -/
inductive Event (Number : Type)
  | append (rows : List (BronzeRow Number))
  | run

/-- Appends and runs, from empty tables; a run that fails changes nothing. -/
def history (doubles : Doubles Number) (sha2 : Sha2 Number) :
    Machine (Tables Number) (Event Number) where
  initial := { bronze := [], silver := [], rejects := [] }
  step tables event :=
    match event with
    | .append rows => { tables with bronze := tables.bronze ++ rows }
    | .run =>
        match writeSilver doubles sha2 tables with
        | some result => result.1
        | none => tables

end SilverWeather
end Spark
end LakehouseOps
