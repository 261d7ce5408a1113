import LakehouseOps.Library.Fallible
import LakehouseOps.Library.Machine
import LakehouseOps.Library.Table

/-!
# Weather bronze

A run reads landing documents, explodes their hourly arrays into rows and merges the
rows into one table. The merge compares a row with the target only, so what a run
adds depends on whether its own rows have distinct keys.
-/

namespace LakehouseOps
namespace Spark
namespace BronzeWeather

open Library Library.Table Library.Fallible

/-! ## Documents and rows -/

/-- The hourly arrays of a document. A field that is absent or of another type is null. -/
structure Hourly (Number : Type) where
  time : Option (List (Option String))
  temperature2m : Option (List (Option Number))
  relativeHumidity2m : Option (List (Option Number))
  precipitation : Option (List (Option Number))
  windSpeed10m : Option (List (Option Number))

structure Location (Number : Type) where
  name : Option String
  latitude : Option Number
  longitude : Option Number

structure Ingestion (Number : Type) where
  source : Option String
  ingestedAt : Option String
  location : Option (Location Number)
  objectChecksum : Option String

structure Payload (Number : Type) where
  hourly : Option (Hourly Number)

/-- A document read with `source_schema`. -/
structure SourceDocument (Number : Type) where
  ingestion : Option (Ingestion Number)
  payload : Option (Payload Number)

/-- A row of the bronze table. -/
structure BronzeRow (Number : Type) where
  objectChecksum : Option String
  source : Option String
  ingestedAt : Option Int
  locationName : Option String
  latitude : Option Number
  longitude : Option Number
  observedAt : Option Int
  temperature2m : Option Number
  relativeHumidity2m : Option Number
  precipitation : Option Number
  windSpeed10m : Option Number
  deriving DecidableEq

variable {Number : Type}

def SourceDocument.hourly (document : SourceDocument Number) : Option (Hourly Number) :=
  document.payload.bind Payload.hourly

/-- `size`: of a null array it is -1. -/
def size {Value : Type} (values : Option (List Value)) : Int :=
  match values with
  | none => -1
  | some values => values.length

/-- `element_at`, counted from one; null outside the array. -/
def elementAt {Value : Type} (values : Option (List (Option Value))) (index : Nat) :
    Option Value :=
  values.bind fun values => (values[index - 1]?).join

/-- What the job uses of Spark's time functions; null where a text does not parse. -/
structure Times where
  /-- `to_timestamp(text)` -/
  toTimestamp : String -> Option Int
  /-- `to_timestamp(text, "yyyy-MM-dd'T'HH:mm")` -/
  toTimestampMinutes : String -> Option Int

/-! ## The job -/

/-- Whether `validate_source` counts the document as invalid. -/
def malformed (document : SourceDocument Number) : Bool :=
  match document.hourly with
  | none => true
  | some hourly =>
      let timeCount := size hourly.time
      decide (timeCount ≤ 0) || size hourly.temperature2m ≠ timeCount ||
        size hourly.relativeHumidity2m ≠ timeCount || size hourly.precipitation ≠ timeCount ||
        size hourly.windSpeed10m ≠ timeCount

/-- `validate_source` -/
def validateSource (frame : List (SourceDocument Number)) : Except String Nat := do
  reject (frame.length = 0) "landing input contains no JSON documents"
  let invalid := (frame.filter malformed).length
  reject (invalid ≠ 0)
    ("landing input contains " ++ toString invalid ++ " malformed document(s)")
  return frame.length

/-- The row of one position of the hourly arrays. -/
def rowAt
    (times : Times)
    (document : SourceDocument Number)
    (hourly : Hourly Number)
    (position : Nat)
    (observedAtRaw : Option String) : BronzeRow Number :=
  let ingestion := document.ingestion
  let location := ingestion.bind Ingestion.location
  { objectChecksum := ingestion.bind Ingestion.objectChecksum
    source := ingestion.bind Ingestion.source
    ingestedAt := (ingestion.bind Ingestion.ingestedAt).bind times.toTimestamp
    locationName := location.bind Location.name
    latitude := location.bind Location.latitude
    longitude := location.bind Location.longitude
    observedAt := observedAtRaw.bind times.toTimestampMinutes
    temperature2m := elementAt hourly.temperature2m (position + 1)
    relativeHumidity2m := elementAt hourly.relativeHumidity2m (position + 1)
    precipitation := elementAt hourly.precipitation (position + 1)
    windSpeed10m := elementAt hourly.windSpeed10m (position + 1) }

/-- The rows of one document: `posexplode` over its times. -/
def explode (times : Times) (document : SourceDocument Number) : List (BronzeRow Number) :=
  match document.hourly with
  | none => []
  | some hourly =>
      ((hourly.time.getD []).zipIdx).map fun entry =>
        rowAt times document hourly entry.2 entry.1

/-- `transform_source` -/
def transformSource (times : Times) (frame : List (SourceDocument Number)) :
    List (BronzeRow Number) :=
  frame.flatMap (explode times)

/-- The condition of the merge. -/
def sameObservation (target source : BronzeRow Number) : Bool :=
  sqlEq target.objectChecksum source.objectChecksum &&
    sqlEq target.observedAt source.observedAt

structure BronzeReport where
  sourceRows : Nat
  rowsBefore : Nat
  rowsAfter : Nat
  rowsInserted : Int
  sourceDocuments : Nat
  deriving DecidableEq

/-- `write_bronze`, with the report that `main` prints. -/
def writeBronze
    (sourceDocuments : Nat)
    (table source : List (BronzeRow Number)) : List (BronzeRow Number) × BronzeReport :=
  let merged := mergeInsert sameObservation table source
  (merged,
    { sourceRows := source.length
      rowsBefore := table.length
      rowsAfter := merged.length
      rowsInserted := merged.length - table.length
      sourceDocuments })

/-- `main`, from the documents that are read. -/
def bronzeJob
    (times : Times)
    (table : List (BronzeRow Number))
    (frame : List (SourceDocument Number)) :
    Except String (List (BronzeRow Number) × BronzeReport) := do
  let sourceDocuments <- validateSource frame
  return writeBronze sourceDocuments table (transformSource times frame)

/-- Successive runs, from an empty table; one that raises leaves the table as it is. -/
def bronzeRuns (times : Times) :
    Machine (List (BronzeRow Number)) (List (SourceDocument Number)) where
  initial := []
  step table frame :=
    match bronzeJob times table frame with
    | .ok result => result.1
    | .error _ => table

/-! ## Keys -/

/-- The columns that the merge compares. -/
abbrev Key := Option String × Option Int

def BronzeRow.key (row : BronzeRow Number) : Key :=
  (row.objectChecksum, row.observedAt)

/-- Neither column is null. -/
def hasKey (key : Key) : Bool :=
  key.1.isSome && key.2.isSome

theorem sameObservation_matches :
    MatchesOn (sameObservation : BronzeRow Number -> BronzeRow Number -> Bool)
      BronzeRow.key hasKey := by
  intro target source
  unfold sameObservation BronzeRow.key hasKey sqlEq
  simp only [Bool.and_eq_true, decide_eq_true_eq, Prod.mk.injEq]
  constructor
  · rintro ⟨⟨checksum, sameChecksum⟩, observed, sameObserved⟩
    exact ⟨⟨sameChecksum, sameObserved⟩, sameChecksum ▸ checksum, sameObserved ▸ observed⟩
  · rintro ⟨⟨sameChecksum, sameObserved⟩, checksum, observed⟩
    exact ⟨⟨sameChecksum ▸ checksum, sameChecksum⟩, sameObserved ▸ observed, sameObserved⟩

/-- What the bronze table is for: one row for each key of the documents, and nothing more
from the same documents. -/
structure ReplaySafe
    (times : Times)
    (documents : List (SourceDocument Number))
    (table : List (BronzeRow Number)) : Prop where
  once : (table.map BronzeRow.key).Nodup
  keys : forall key, key ∈ table.map BronzeRow.key ↔
    key ∈ (transformSource times documents).map BronzeRow.key
  replay : forall again, (forall document, document ∈ again -> document ∈ documents) ->
    forall result, bronzeJob times table again = .ok result -> result.2.rowsInserted = 0

/-- No run brings two rows of a key that was not there before. -/
def FreshOnce (times : Times) :
    List Key -> List (List (SourceDocument Number)) -> Prop
  | _, [] => True
  | seen, frame :: frames =>
      (((transformSource times frame).filter fun row => row.key ∉ seen).map
        BronzeRow.key).Nodup ∧
        FreshOnce times (seen ++ (transformSource times frame).map BronzeRow.key) frames

/-- Every row of the documents has a checksum and a time. -/
def AllKeyed (times : Times) (documents : List (SourceDocument Number)) : Prop :=
  forall row, row ∈ transformSource times documents -> hasKey row.key = true

/-! ## Runs -/

theorem validateSource_eq_ok_iff {frame : List (SourceDocument Number)} {count : Nat} :
    validateSource frame = .ok count ↔
      frame ≠ [] ∧ (forall document, document ∈ frame -> malformed document = false) ∧
        count = frame.length := by
  unfold validateSource
  simp only [bind_eq_ok_iff, reject_eq_ok_iff, exists_const, List.length_eq_zero_iff, ne_eq,
    not_not, List.filter_eq_nil_iff, Bool.not_eq_true]
  refine and_congr_right fun _ => and_congr_right fun _ => ?_
  exact ⟨fun returned => (Except.ok.inj returned).symm, fun same => congrArg Except.ok same.symm⟩

theorem mem_transformSource
    {times : Times}
    {frame : List (SourceDocument Number)}
    {row : BronzeRow Number} :
    row ∈ transformSource times frame ↔
      Exists fun document => document ∈ frame ∧ row ∈ explode times document :=
  List.mem_flatMap

/-- A returning job has merged the rows of its documents. -/
theorem bronzeJob_eq_ok
    {times : Times}
    {table : List (BronzeRow Number)}
    {frame : List (SourceDocument Number)}
    {result : List (BronzeRow Number) × BronzeReport}
    (returned : bronzeJob times table frame = .ok result) :
    result.1 = mergeInsert sameObservation table (transformSource times frame) ∧
      result.2.rowsInserted = (result.1.length : Int) - table.length := by
  unfold bronzeJob at returned
  obtain ⟨count, _, returned⟩ := bind_eq_ok_iff.mp returned
  obtain rfl := Except.ok.inj returned
  exact ⟨rfl, rfl⟩

/-- Documents that are not malformed are merged, if there are any. -/
theorem bronzeRuns_step
    (times : Times)
    (table : List (BronzeRow Number))
    {frame : List (SourceDocument Number)}
    (wellFormed : forall document, document ∈ frame -> malformed document = false) :
    (bronzeRuns times).step table frame =
      mergeInsert sameObservation table (transformSource times frame) := by
  change (match bronzeJob times table frame with
    | .ok result => result.1
    | .error _ => table) = _
  cases returned : bronzeJob times table frame with
  | ok result => exact (bronzeJob_eq_ok returned).1
  | error problem =>
      have empty : frame = [] := by
        by_contra present
        have accepted := validateSource_eq_ok_iff.mpr ⟨present, wellFormed, rfl⟩
        simp [bronzeJob, accepted, ok_bind, pure, Except.pure] at returned
      rw [empty]
      simp [transformSource, mergeInsert]

section Runs

variable {times : Times} {frames : List (List (SourceDocument Number))}

/-- The keys after some runs are those before and those of the documents. -/
theorem mem_runFrom_keys
    (wellFormed : forall frame, frame ∈ frames ->
      forall document, document ∈ frame -> malformed document = false)
    {table : List (BronzeRow Number)}
    {key : Key} :
    key ∈ ((bronzeRuns times).runFrom table frames).map BronzeRow.key ↔
      key ∈ table.map BronzeRow.key ∨
        Exists fun frame => frame ∈ frames ∧
          key ∈ (transformSource times frame).map BronzeRow.key := by
  induction frames generalizing table with
  | nil => simp
  | cons frame frames inductionHypothesis =>
      obtain ⟨headFormed, tailFormed⟩ := List.forall_mem_cons.mp wellFormed
      rw [Machine.runFrom_cons, inductionHypothesis tailFormed, bronzeRuns_step times table headFormed,
        mem_mergeInsert_columns sameObservation_matches, List.exists_mem_cons_iff, or_assoc]

/-- Some runs keep the keys distinct exactly when no run brings a new key twice. -/
theorem nodup_runFrom_iff
    (wellFormed : forall frame, frame ∈ frames ->
      forall document, document ∈ frame -> malformed document = false)
    (keyed : forall frame, frame ∈ frames -> AllKeyed times frame)
    {table : List (BronzeRow Number)}
    {seen : List Key}
    (areSeen : forall key, key ∈ seen ↔ key ∈ table.map BronzeRow.key) :
    (((bronzeRuns times).runFrom table frames).map BronzeRow.key).Nodup ↔
      (table.map BronzeRow.key).Nodup ∧ FreshOnce times seen frames := by
  induction frames generalizing table seen with
  | nil => simp [FreshOnce]
  | cons frame frames inductionHypothesis =>
      obtain ⟨headFormed, tailFormed⟩ := List.forall_mem_cons.mp wellFormed
      obtain ⟨headKeyed, tailKeyed⟩ := List.forall_mem_cons.mp keyed
      have seenAfter : forall key,
          key ∈ seen ++ (transformSource times frame).map BronzeRow.key ↔
            key ∈ ((bronzeRuns times).step table frame).map BronzeRow.key := by
        intro key
        rw [bronzeRuns_step times table headFormed,
          mem_mergeInsert_columns sameObservation_matches, List.mem_append, areSeen]
      rw [Machine.runFrom_cons, inductionHypothesis tailFormed tailKeyed seenAfter,
        bronzeRuns_step times table headFormed,
        nodup_mergeInsert_iff sameObservation_matches headKeyed, FreshOnce, and_assoc]
      refine and_congr_right fun _ => and_congr_left fun _ => Iff.of_eq ?_
      refine congrArg (fun rows : List (BronzeRow Number) => (rows.map BronzeRow.key).Nodup) ?_
      exact List.filter_congr fun row _ =>
        decide_eq_decide.mpr (not_congr (areSeen row.key).symm)

end Runs

/-- A replay of the documents inserts nothing exactly when every row has its key. -/
theorem replay_inserts_nothing_iff
    (times : Times)
    {documents : List (SourceDocument Number)}
    (accepted : Exists fun count => validateSource documents = .ok count)
    {table : List (BronzeRow Number)}
    (hasKeys : forall key, key ∈ (transformSource times documents).map BronzeRow.key ->
      key ∈ table.map BronzeRow.key) :
    (forall again, (forall document, document ∈ again -> document ∈ documents) ->
      forall result, bronzeJob times table again = .ok result -> result.2.rowsInserted = 0) ↔
      AllKeyed times documents := by
  have inserted : forall {again : List (SourceDocument Number)}
      {result : List (BronzeRow Number) × BronzeReport},
      bronzeJob times table again = .ok result ->
        (result.2.rowsInserted = 0 ↔ forall row, row ∈ transformSource times again ->
          hasKey row.key = true ∧ row.key ∈ table.map BronzeRow.key) := by
    intro again result returned
    obtain ⟨merged, rows⟩ := bronzeJob_eq_ok returned
    rw [rows, merged, Int.sub_eq_zero, Int.natCast_inj,
      length_mergeInsert_iff sameObservation_matches]
  constructor
  · intro replay row member
    obtain ⟨count, valid⟩ := accepted
    have returned : bronzeJob times table documents =
        .ok (writeBronze count table (transformSource times documents)) := by
      unfold bronzeJob
      rw [valid]
      rfl
    have none := replay documents (fun _ isDocument => isDocument) _ returned
    exact ((inserted returned).mp none row member).1
  · intro keyed again included result returned
    refine (inserted returned).mpr fun row member => ?_
    obtain ⟨document, isAgain, isRow⟩ := mem_transformSource.mp member
    have isSource := mem_transformSource.mpr ⟨document, included document isAgain, isRow⟩
    exact ⟨keyed row isSource, hasKeys _ (List.mem_map_of_mem isSource)⟩

/-- However accepted documents are split into runs, the bronze table is safe to replay
exactly when every row has a checksum and a time and no run brings a new key twice. -/
theorem bronze_replay_safe_iff
    {times : Times}
    {documents : List (SourceDocument Number)}
    (accepted : Exists fun count => validateSource documents = .ok count)
    {frames : List (List (SourceDocument Number))}
    (covers : forall document, document ∈ documents ↔
      Exists fun frame => frame ∈ frames ∧ document ∈ frame) :
    ReplaySafe times documents ((bronzeRuns times).run frames) ↔
      AllKeyed times documents ∧ FreshOnce times [] frames := by
  have wellFormed : forall frame, frame ∈ frames ->
      forall document, document ∈ frame -> malformed document = false := by
    obtain ⟨count, valid⟩ := accepted
    intro frame isFrame document isDocument
    exact (validateSource_eq_ok_iff.mp valid).2.1 document
      ((covers document).mpr ⟨frame, isFrame, isDocument⟩)
  have keys : forall key, key ∈ ((bronzeRuns times).run frames).map BronzeRow.key ↔
      key ∈ (transformSource times documents).map BronzeRow.key := by
    intro key
    refine (mem_runFrom_keys wellFormed).trans ?_
    simp only [bronzeRuns, List.map_nil, List.not_mem_nil, false_or, List.mem_map,
      mem_transformSource]
    constructor
    · rintro ⟨frame, isFrame, row, ⟨document, isDocument, isRow⟩, rfl⟩
      exact ⟨row, ⟨document, (covers document).mpr ⟨frame, isFrame, isDocument⟩, isRow⟩, rfl⟩
    · rintro ⟨row, ⟨document, isDocument, isRow⟩, rfl⟩
      obtain ⟨frame, isFrame, inFrame⟩ := (covers document).mp isDocument
      exact ⟨frame, isFrame, row, ⟨document, inFrame, isRow⟩, rfl⟩
  have replays := replay_inserts_nothing_iff times accepted
    fun key isKey => (keys key).mpr isKey
  have keyedFrames : AllKeyed times documents ->
      forall frame, frame ∈ frames -> AllKeyed times frame := by
    intro keyed frame isFrame row member
    obtain ⟨document, isDocument, isRow⟩ := mem_transformSource.mp member
    exact keyed row (mem_transformSource.mpr
      ⟨document, (covers document).mpr ⟨frame, isFrame, isDocument⟩, isRow⟩)
  have distinct : AllKeyed times documents ->
      ((((bronzeRuns times).run frames).map BronzeRow.key).Nodup ↔ FreshOnce times [] frames) := by
    intro keyed
    have start : forall key,
        key ∈ ([] : List Key) ↔ key ∈ ([] : List (BronzeRow Number)).map BronzeRow.key :=
      fun _ => Iff.rfl
    exact (nodup_runFrom_iff wellFormed (keyedFrames keyed) start).trans
      (and_iff_right List.nodup_nil)
  constructor
  · rintro ⟨once, _, replay⟩
    have keyed := replays.mp replay
    exact ⟨keyed, (distinct keyed).mp once⟩
  · rintro ⟨keyed, fresh⟩
    exact ⟨(distinct keyed).mpr fresh, keys, replays.mpr keyed⟩

/-! ## The same content on two days -/

/-- A document with one hour of one place, landed at the given time. -/
def landedAt (ingestedAt : String) : SourceDocument Int where
  ingestion := some
    { source := some "open_meteo"
      ingestedAt := some ingestedAt
      location := some { name := some "moscow", latitude := some 55, longitude := some 37 }
      objectChecksum := some "ab12" }
  payload := some
    { hourly := some
        { time := some [some "2026-07-01T00:00"]
          temperature2m := some [some 20]
          relativeHumidity2m := some [some 60]
          precipitation := some [some 0]
          windSpeed10m := some [some 3] } }

def sampleTimes : Times where
  toTimestamp text := if text = "2026-07-01T06:00:00+00:00" then some 6 else some 30
  toTimestampMinutes text := if text = "2026-07-01T00:00" then some 0 else none

/-- One document in two runs. -/
theorem bronze_replay_safe_iff_replayed :
    ReplaySafe sampleTimes [landedAt "2026-07-01T06:00:00+00:00"]
        ((bronzeRuns sampleTimes).run
          [[landedAt "2026-07-01T06:00:00+00:00"], [landedAt "2026-07-01T06:00:00+00:00"]]) ↔
      AllKeyed sampleTimes [landedAt "2026-07-01T06:00:00+00:00"] ∧
        FreshOnce sampleTimes []
          [[landedAt "2026-07-01T06:00:00+00:00"], [landedAt "2026-07-01T06:00:00+00:00"]] :=
  bronze_replay_safe_iff ⟨1, rfl⟩ (by simp)

/-- One run over the same content of two days inserts its hour twice. -/
theorem same_content_inserted_twice :
    ¬ (forall (Number : Type) (times : Times) (documents : List (SourceDocument Number)),
      (Exists fun count => validateSource documents = .ok count) ->
        forall frames : List (List (SourceDocument Number)),
          (forall document, document ∈ documents ↔
            Exists fun frame => frame ∈ frames ∧ document ∈ frame) ->
            ReplaySafe times documents ((bronzeRuns times).run frames)) := by
  intro safe
  let documents :=
    [landedAt "2026-07-01T06:00:00+00:00", landedAt "2026-07-02T06:00:00+00:00"]
  have once := (safe Int sampleTimes documents ⟨2, rfl⟩ [documents] (by simp)).once
  exact absurd once (by decide)

end BronzeWeather
end Spark
end LakehouseOps
