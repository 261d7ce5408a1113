import LakehouseOps.Ingestion.WeatherAudit

/-!
# Landing and audit of weather agree

What landing writes passes the audit at its own key. Two contents that pass at one key
have the same location and the same forecast, so a replay hides nothing.
-/

namespace LakehouseOps
namespace Ingestion
namespace WeatherFormat

open Library Library.Fallible
open WeatherLanding WeatherAudit

variable {Double Timestamp : Type} {python : Python Double Timestamp} {parsers : Parsers Double}

/-- What Python promises: floats are read back, lower case is kept by lowering, letters and
digits are neither white space nor slashes, and digests are hexadecimal. The digest has no
collision. -/
structure Promises (python : Python Double Timestamp) : Prop where
  floats : python.floats.Lawful
  lower_fixed : forall points : Text,
    (forall point, point ∈ points -> python.lower [point] = [point]) ->
      python.lower points = points
  lower_lowered : forall (points : Text) (point : CodePoint),
    point ∈ python.lower points -> python.lower [point] = [point]
  lower_hyphen : python.lower [char '-'] = [char '-']
  alnum_visible : forall point, python.isalnum point = true ->
    isSpacePoint point = false ∧ point ≠ char '/'
  hexdigest : forall body, python.sha256 body ≠ [] ∧
    forall point, point ∈ python.sha256 body -> (hexValue? point).isSome = true
  injective : Function.Injective python.sha256

/-! ## Locations -/

/-- A character of the name of a location. -/
def NamePoint (python : Python Double Timestamp) (point : CodePoint) : Prop :=
  python.isalnum point = true ∨ point = char '-' ∨ point = char '_'

theorem NamePoint.visible
    {point : CodePoint}
    (promises : Promises python)
    (isName : NamePoint python point) :
    isSpacePoint point = false ∧ point ≠ char '/' := by
  rcases isName with alnum | rfl | rfl
  · exact promises.alnum_visible point alnum
  · decide
  · decide

/-- What an accepted location has. -/
structure Accepts
    (python : Python Double Timestamp)
    (location : Location Double) : Prop where
  notEmpty : location.name ≠ []
  points : forall point, point ∈ location.name -> NamePoint python point
  latitude : withinBound python 90 location.latitude = .ok true
  longitude : withinBound python 180 location.longitude = .ok true

theorem makeLocation_eq_ok
    {name : Text}
    {latitude longitude : Document Double}
    {location : Location Double} :
    makeLocation python name latitude longitude = .ok location ↔
      location = { name := normalizedName python name, latitude, longitude } ∧
        Accepts python location := by
  unfold makeLocation
  simp only [bind_eq_ok_iff, reject_eq_ok_iff, pure, Except.pure, Except.ok.injEq, not_or,
    Bool.not_eq_false, Decidable.not_not, List.all_eq_true, Bool.or_eq_true, decide_eq_true_eq]
  constructor
  · rintro ⟨_, ⟨notEmpty, points⟩, within, isLatitude, _, latitudeWithin, also, isLongitude, _,
      longitudeWithin, rfl⟩
    refine ⟨rfl, notEmpty, fun point member => ?_, latitudeWithin ▸ isLatitude,
      longitudeWithin ▸ isLongitude⟩
    exact or_assoc.mp (points point member)
  · rintro ⟨rfl, accepts⟩
    exact ⟨(), ⟨accepts.notEmpty, fun point member => or_assoc.mpr (accepts.points point member)⟩,
      true, accepts.latitude, (), rfl, true, accepts.longitude, (), rfl, rfl⟩

/-- The name of an accepted location is normalized. -/
theorem normalizedName_normalized
    (promises : Promises python)
    {name : Text}
    (points : forall point, point ∈ normalizedName python name -> NamePoint python point) :
    normalizedName python (normalizedName python name) = normalizedName python name := by
  have stripped : stripPoints (normalizedName python name) = normalizedName python name :=
    stripPoints_eq_self fun point member => ((points point member).visible promises).1
  have lowered : python.lower (normalizedName python name) = normalizedName python name := by
    apply promises.lower_fixed
    intro point member
    obtain ⟨original, isOriginal, rfl⟩ := List.mem_map.mp member
    split
    · exact promises.lower_hyphen
    · exact promises.lower_lowered _ original isOriginal
  have noBlank : forall point, point ∈ normalizedName python name -> point ≠ char ' ' := by
    rintro point member rfl
    exact absurd ((points _ member).visible promises).1 (by decide)
  change (python.lower (stripPoints (normalizedName python name))).map _ = _
  rw [stripped, lowered, List.map_congr_left (fun point member => if_neg (noBlank point member)),
    List.map_id']

/-- An accepted location is accepted again as it stands. -/
theorem makeLocation_again
    (promises : Promises python)
    {name : Text}
    {latitude longitude : Document Double}
    {location : Location Double}
    (made : makeLocation python name latitude longitude = .ok location) :
    makeLocation python location.name location.latitude location.longitude = .ok location := by
  obtain ⟨rfl, accepts⟩ := makeLocation_eq_ok.mp made
  refine makeLocation_eq_ok.mpr ⟨?_, accepts⟩
  rw [normalizedName_normalized promises accepts.points]

/-- A coordinate is a number, so there is nothing in it to sort. -/
theorem canonical_of_within
    {bound : Nat}
    {value : Document Double}
    (within : withinBound python bound value = .ok true) :
    value.canonical = value ∧ value.WellFormed := by
  cases value with
  | bool value => exact ⟨rfl, .bool value⟩
  | int value => exact ⟨rfl, .int value⟩
  | float value => exact ⟨rfl, .float value⟩
  | null => exact absurd within (by simp [withinBound])
  | string value => exact absurd within (by simp [withinBound])
  | array values => exact absurd within (by simp [withinBound])
  | object entries => exact absurd within (by simp [withinBound])

/-! ## Payloads -/

/-- The hours of the payload, each with a value of every series. -/
structure Complete (payload : List (Text × Document Double)) : Prop where
  hours : Exists fun hourly => Exists fun times =>
    payload.lookup (text "hourly") = some (.object hourly) ∧
      hourly.lookup (text "time") = some (.array times) ∧ times ≠ [] ∧
        forall seriesName, seriesName ∈ requiredSeries -> Exists fun series =>
          hourly.lookup (text seriesName) = some (.array series) ∧ series.length = times.length

theorem checkSeries_eq_ok
    {hourly : List (Text × Document Double)}
    {expectedLength : Nat}
    {seriesName : String} :
    checkSeries hourly expectedLength seriesName = .ok () ↔
      Exists fun series =>
        hourly.lookup (text seriesName) = some (.array series) ∧
          series.length = expectedLength := by
  unfold checkSeries
  split
  · next series isSeries =>
      rw [isSeries, reject_eq_ok_iff, Decidable.not_not]
      constructor
      · exact fun same => ⟨series, rfl, same⟩
      · rintro ⟨other, sameSeries, same⟩
        injection sameSeries with sameSeries
        injection sameSeries with sameSeries
        rw [sameSeries, same]
  · next noSeries =>
      constructor
      · exact fun failed => absurd failed (by simp)
      · rintro ⟨series, isSeries, _⟩
        exact absurd isSeries (noSeries series)

theorem fromSource_eq_ok
    {location : Location Double}
    {payload : List (Text × Document Double)}
    {result : WeatherPayload Double} :
    fromSource location payload = .ok result ↔
      Complete payload ∧ result = { location, sourcePayload := payload } := by
  unfold fromSource
  constructor
  · intro accepted
    split at accepted
    · next hourly isHourly =>
        split at accepted
        · next times areTimes =>
            simp only [bind_eq_ok_iff, reject_eq_ok_iff] at accepted
            obtain ⟨_, notEmpty, _, checked, same⟩ := accepted
            refine ⟨⟨hourly, times, isHourly, areTimes, notEmpty, ?_⟩, (Except.ok.inj same).symm⟩
            exact fun seriesName member =>
              checkSeries_eq_ok.mp (forM_eq_ok_iff.mp checked seriesName member)
        · exact absurd accepted (by simp)
    · exact absurd accepted (by simp)
  · rintro ⟨⟨hourly, times, isHourly, areTimes, notEmpty, series⟩, rfl⟩
    rw [isHourly]
    simp only
    rw [areTimes]
    simp only [bind_eq_ok_iff, reject_eq_ok_iff]
    exact ⟨(), notEmpty, (), forM_eq_ok_iff.mpr fun seriesName member =>
      checkSeries_eq_ok.mpr (series seriesName member), rfl⟩

/-- The payload that is loaded back is complete if the one that was dumped is. -/
theorem Complete.canonicalFields
    {payload : List (Text × Document Double)}
    (wellFormed : Document.WellFormed (.object payload))
    (complete : Complete payload) :
    Complete (Document.canonicalFields payload) := by
  obtain ⟨hourly, times, isHourly, areTimes, notEmpty, series⟩ := complete
  have hourlyFormed := wellFormed.of_lookup isHourly
  refine ⟨Document.canonicalFields hourly, times.map Document.canonical, ?_, ?_, ?_, ?_⟩
  · rw [Document.lookup_canonicalFields wellFormed.distinct, isHourly, Option.map_some,
      Document.canonical_object]
  · rw [Document.lookup_canonicalFields hourlyFormed.distinct, areTimes, Option.map_some,
      Document.canonical_array]
  · exact fun empty => notEmpty (List.map_eq_nil_iff.mp empty)
  · intro seriesName member
    obtain ⟨values, areValues, sameLength⟩ := series seriesName member
    refine ⟨values.map Document.canonical, ?_, ?_⟩
    · rw [Document.lookup_canonicalFields hourlyFormed.distinct, areValues, Option.map_some,
        Document.canonical_array]
    · rw [List.length_map, List.length_map, sameLength]

/-- The same forecast: the same location, and the same payload but for the time that the
source took and the order of entries. -/
structure SameForecast (left right : WeatherPayload Double) : Prop where
  location : left.location = right.location
  payload : Document.canonical (.object (stableSourcePayload left.sourcePayload)) =
    Document.canonical (.object (stableSourcePayload right.sourcePayload))

/-! ## Checksums -/

theorem locationFields_distinct (location : Location Double) :
    ((locationFields location).map Prod.fst).Nodup :=
  (by decide : ([text "name", text "latitude", text "longitude"] : List Text).Nodup)

theorem objectIdentity_distinct (payload : WeatherPayload Double) :
    ((objectIdentity payload).map Prod.fst).Nodup :=
  (by decide : ([text "source", text "location", text "payload"] : List Text).Nodup)

theorem ingestionFields_distinct
    (location : Location Double)
    (timestamp : UtcDatetime)
    (checksum : Text) :
    ((ingestionFields location timestamp checksum).map Prod.fst).Nodup :=
  (by decide : ([text "source", text "ingested_at", text "location", text "object_checksum"] :
    List Text).Nodup)

theorem landingDocument_distinct
    (payload : WeatherPayload Double)
    (timestamp : UtcDatetime)
    (checksum : Text) :
    ((landingDocument payload timestamp checksum).map Prod.fst).Nodup :=
  (by decide : ([text "ingestion", text "payload"] : List Text).Nodup)

/-- The identity has the canonical location and payload. -/
theorem canonical_objectIdentity
    {left right : WeatherPayload Double}
    (sameLocation : left.location = right.location)
    (samePayload : Document.canonical (.object (stableSourcePayload left.sourcePayload)) =
      Document.canonical (.object (stableSourcePayload right.sourcePayload))) :
    Document.canonical (.object (objectIdentity left)) =
      Document.canonical (.object (objectIdentity right)) := by
  unfold objectIdentity
  rw [sameLocation, Document.canonical_object, Document.canonical_object,
    Document.canonicalFields, Document.canonicalFields]
  simp only [List.map_cons, List.map_nil, samePayload]

theorem calculateObjectChecksum_eq_ok
    {payload : WeatherPayload Double}
    {checksum : Text} :
    calculateObjectChecksum python payload = .ok checksum ↔
      Exists fun body =>
        encodeUtf8 (Document.dumps python.floats (.object (objectIdentity payload))) = some body ∧
          checksum = python.sha256 body := by
  unfold calculateObjectChecksum encode
  cases encodeUtf8 (Document.dumps python.floats (.object (objectIdentity payload))) with
  | none => simp [bind, Except.bind]
  | some body => simp [bind, Except.bind, pure, Except.pure, eq_comm]

/-- Forecasts that are the same have the same checksum. -/
theorem SameForecast.checksum_eq
    {left right : WeatherPayload Double}
    (same : SameForecast left right) :
    calculateObjectChecksum python left = calculateObjectChecksum python right := by
  unfold calculateObjectChecksum Document.dumps
  rw [canonical_objectIdentity same.location same.payload]

/-- Coordinates that are accepted are told by their canonical form. -/
theorem location_eq_of_canonical
    {left right : Location Double}
    (leftAccepts : Accepts python left)
    (rightAccepts : Accepts python right)
    (same : Document.canonical (.object (locationFields left)) =
      Document.canonical (.object (locationFields right))) :
    left = right := by
  have field := Document.canonical_field_eq (locationFields_distinct left)
    (locationFields_distinct right) same
  have name : (Document.string left.name : Document Double) = .string right.name :=
    Option.some.inj (field (text "name"))
  have latitude : left.latitude.canonical = right.latitude.canonical :=
    Option.some.inj (field (text "latitude"))
  have longitude : left.longitude.canonical = right.longitude.canonical :=
    Option.some.inj (field (text "longitude"))
  rw [(canonical_of_within leftAccepts.latitude).1,
    (canonical_of_within rightAccepts.latitude).1] at latitude
  rw [(canonical_of_within leftAccepts.longitude).1,
    (canonical_of_within rightAccepts.longitude).1] at longitude
  obtain ⟨leftName, leftLatitude, leftLongitude⟩ := left
  obtain ⟨rightName, rightLatitude, rightLongitude⟩ := right
  rw [show leftName = rightName from Document.string.inj name,
    show leftLatitude = rightLatitude from latitude,
    show leftLongitude = rightLongitude from longitude]

/-- The checksum tells the forecast. -/
theorem sameForecast_of_checksum
    (promises : Promises python)
    {left right : WeatherPayload Double}
    {checksum : Text}
    (leftAccepts : Accepts python left.location)
    (rightAccepts : Accepts python right.location)
    (leftChecksum : calculateObjectChecksum python left = .ok checksum)
    (rightChecksum : calculateObjectChecksum python right = .ok checksum) :
    SameForecast left right := by
  obtain ⟨leftBody, leftEncoded, isLeft⟩ := calculateObjectChecksum_eq_ok.mp leftChecksum
  obtain ⟨rightBody, rightEncoded, isRight⟩ := calculateObjectChecksum_eq_ok.mp rightChecksum
  obtain rfl : leftBody = rightBody := promises.injective (isLeft.symm.trans isRight)
  have same : Document.canonical (.object (objectIdentity left)) =
      Document.canonical (.object (objectIdentity right)) :=
    Document.canonical_eq_of_dumps_eq promises.floats
      (encodeUtf8_injective leftEncoded rightEncoded)
  have field := Document.canonical_field_eq (objectIdentity_distinct left)
    (objectIdentity_distinct right) same
  exact ⟨location_eq_of_canonical leftAccepts rightAccepts
      (Option.some.inj (field (text "location"))),
    Option.some.inj (field (text "payload"))⟩

/-! ## What a valid audit has checked -/

/-- The document in the content has the location and the payload. -/
structure Describes
    (python : Python Double Timestamp)
    (parsers : Parsers Double)
    (content : Content)
    (payload : WeatherPayload Double) : Prop where
  document : Exists fun document => Exists fun ingestion =>
    loadsContent python parsers content = .ok (.object document) ∧
      document.lookup (text "ingestion") = some (.object ingestion) ∧
        auditedLocation python ingestion = .ok payload.location ∧
          document.lookup (text "payload") = some (.object payload.sourcePayload)

/-- The content is audited as valid at the path. -/
def AuditedValid
    (python : Python Double Timestamp)
    (parsers : Parsers Double)
    (relative : PosixPath)
    (content : Content)
    (metadataChecksum : Option Text) : Prop :=
  Exists fun item =>
    auditLandingContent python parsers relative content metadataChecksum = .ok item ∧
      item.valid = true

theorem problemUnless_eq_nil
    {condition : Prop}
    [Decidable condition]
    {problem : String} :
    problemUnless condition problem = [] ↔ condition := by
  unfold problemUnless
  split
  · next holds => exact iff_of_true rfl holds
  · next fails => exact iff_of_false (List.cons_ne_nil _ _) fails

theorem isText_iff {field : Option (Document Double)} {expected : Text} :
    isText field expected = true ↔ field = some (.string expected) := by
  unfold isText
  split
  · next value =>
      rw [decide_eq_true_eq]
      constructor
      · exact fun same => by rw [same]
      · exact fun same => Document.string.inj (Option.some.inj same)
  · next noText => exact iff_of_false Bool.false_ne_true (noText expected)

theorem accepts_of_auditedLocation
    {ingestion : List (Text × Document Double)}
    {location : Location Double}
    (audited : auditedLocation python ingestion = .ok location) :
    Accepts python location := by
  unfold auditedLocation at audited
  split at audited
  · split at audited
    · simp only [bind_eq_ok_iff] at audited
      obtain ⟨latitude, _, longitude, _, made⟩ := audited
      exact (makeLocation_eq_ok.mp made).2
    · exact absurd audited (by simp)
  · exact absurd audited (by simp)

/-- A document without errors has a location and a payload, and its name is the checksum. -/
theorem of_validateDocument
    {path : PosixPath}
    {ingestion sourcePayload : List (Text × Document Double)}
    {metadataChecksum : Option Text}
    (validated : validateDocument python parsers path ingestion sourcePayload metadataChecksum =
      .ok []) :
    Exists fun location =>
      auditedLocation python ingestion = .ok location ∧
        calculateObjectChecksum python { location, sourcePayload } = .ok path.stem := by
  unfold validateDocument at validated
  simp only at validated
  split at validated
  · injection validated with some_error
    exact absurd (List.append_eq_nil_iff.mp some_error).2 (List.cons_ne_nil _ _)
  · next payload accepted =>
      obtain ⟨location, audited, complete⟩ := bind_eq_ok_iff.mp accepted
      obtain ⟨_, rfl⟩ := fromSource_eq_ok.mp complete
      obtain ⟨expectedChecksum, computed, returned⟩ := bind_eq_ok_iff.mp validated
      injection returned with noErrors
      simp only [List.append_eq_nil_iff, problemUnless_eq_nil] at noErrors
      obtain ⟨⟨⟨⟨_, _⟩, sameStem⟩, _⟩, _⟩ := noErrors
      exact ⟨location, audited, sameStem ▸ computed⟩

/-- A valid object has a location and a payload, and its name is their checksum. -/
theorem of_auditedValid
    {relative : PosixPath}
    {content : Content}
    {metadataChecksum : Option Text}
    (valid : AuditedValid python parsers relative content metadataChecksum) :
    Exists fun payload : WeatherPayload Double =>
      Describes python parsers content payload ∧ Accepts python payload.location ∧
        calculateObjectChecksum python payload = .ok relative.stem := by
  obtain ⟨item, audited, isValid⟩ := valid
  have invalid : forall errors problems : List String, problems ≠ [] ->
      (.ok (auditItem relative (errors ++ problems)) : Except String AuditItem) ≠ .ok item := by
    intro errors problems some_problem same
    injection same with same
    rw [← same] at isValid
    exact some_problem (List.append_eq_nil_iff.mp (List.isEmpty_iff.mp isValid)).2
  unfold auditLandingContent at audited
  simp only at audited
  split at audited
  · exact absurd audited (invalid _ _ (List.cons_ne_nil _ _))
  · next document loaded =>
      split at audited
      · next ingestion sourcePayload isIngestion isPayload =>
          obtain ⟨found, validated, returned⟩ := bind_eq_ok_iff.mp audited
          have noErrors : found = [] := by
            by_contra some_error
            exact invalid _ found some_error returned
          obtain ⟨location, isLocation, computed⟩ := of_validateDocument (noErrors ▸ validated)
          exact ⟨{ location, sourcePayload },
            ⟨document, ingestion, loaded, isIngestion, isLocation, isPayload⟩,
            accepts_of_auditedLocation isLocation, computed⟩
      · exact absurd audited (invalid _ _ (List.cons_ne_nil _ _))
      · exact absurd audited (invalid _ _ (List.cons_ne_nil _ _))
      · exact absurd audited (invalid _ _ (List.cons_ne_nil _ _))
  · exact absurd audited (invalid _ _ (List.cons_ne_nil _ _))

/-- Two contents that are valid at one path have the same forecast. -/
theorem sameForecast_of_auditedValid
    (promises : Promises python)
    {relative : PosixPath}
    {left right : Content}
    {leftMetadata rightMetadata : Option Text}
    (leftValid : AuditedValid python parsers relative left leftMetadata)
    (rightValid : AuditedValid python parsers relative right rightMetadata) :
    Exists fun leftPayload => Exists fun rightPayload =>
      Describes python parsers left leftPayload ∧ Describes python parsers right rightPayload ∧
        SameForecast leftPayload rightPayload := by
  obtain ⟨leftPayload, leftDescribes, leftAccepts, leftChecksum⟩ := of_auditedValid leftValid
  obtain ⟨rightPayload, rightDescribes, rightAccepts, rightChecksum⟩ := of_auditedValid rightValid
  exact ⟨leftPayload, rightPayload, leftDescribes, rightDescribes,
    sameForecast_of_checksum promises leftAccepts rightAccepts leftChecksum rightChecksum⟩

/-! ## The path of an object -/

theorem hexdigest_noSlash (promises : Promises python) (body : ByteArray) :
    char '/' ∉ python.sha256 body := by
  intro member
  exact absurd ((promises.hexdigest body).2 _ member) (by decide)

/-- The path of a key. -/
def landingPath (date : Date) (name checksum : Text) : PosixPath where
  root := []
  tail := [text "source=open_meteo", text "ingest_date=" ++ date.isoformat,
    text "location=" ++ name, checksum ++ text ".json"]

theorem objectKey_eq_intercalate (date : Date) (name checksum : Text) :
    objectKey date name checksum =
      [char '/'].intercalate (landingPath date name checksum).tail := by
  have source : text "source=open_meteo/" = text "source=open_meteo" ++ [char '/'] := by decide
  have slash : text "/" = [char '/'] := by decide
  rw [objectKey, source, slash]
  simp [landingPath, List.intercalate]

theorem asPosix_landingPath (date : Date) (name checksum : Text) :
    (landingPath date name checksum).asPosix = objectKey date name checksum := by
  rw [objectKey_eq_intercalate]
  exact if_neg fun empty => List.cons_ne_nil _ _ empty.2

theorem ofText_objectKey
    {date : Date}
    {name checksum : Text}
    (nameNoSlash : char '/' ∉ name)
    (checksumNoSlash : char '/' ∉ checksum) :
    PosixPath.ofText (objectKey date name checksum) = landingPath date name checksum := by
  have dateNoSlash : char '/' ∉ date.isoformat := by
    intro member
    rcases mem_isoformat member with digit | hyphen
    · exact absurd digit (by decide)
    · exact absurd hyphen (by decide)
  have noDot : forall (first : CodePoint) (rest : Text), first ≠ char '.' ->
      first :: rest ≠ [] ∧ first :: rest ≠ [char '.'] :=
    fun first rest differs =>
      ⟨List.cons_ne_nil _ _, fun same => differs (List.cons.inj same).1⟩
  rw [objectKey_eq_intercalate]
  refine PosixPath.ofText_intercalate ?_ ?_
  · simp only [List.forall_mem_cons, List.mem_append, not_or]
    refine ⟨by decide, ⟨by decide, dateNoSlash⟩, ⟨by decide, nameNoSlash⟩,
      ⟨checksumNoSlash, by decide⟩, fun part none => absurd none List.not_mem_nil⟩
  · simp only [List.forall_mem_cons]
    refine ⟨by decide, noDot (char 'i') _ (by decide), noDot (char 'l') _ (by decide), ?_,
      fun part none => absurd none List.not_mem_nil⟩
    have longer : 1 < (checksum ++ text ".json").length := by
      rw [List.length_append]
      exact Nat.lt_of_lt_of_le (by decide) (Nat.le_add_left (text ".json").length _)
    refine ⟨fun empty => ?_, fun dot => ?_⟩
    · rw [empty] at longer
      exact absurd longer (by decide)
    · rw [dot] at longer
      exact absurd longer (by decide)

theorem stem_landingPath
    {date : Date}
    {name checksum : Text}
    (notEmpty : checksum ≠ []) :
    (landingPath date name checksum).stem = checksum := by
  have isName : (landingPath date name checksum).name = checksum ++ char '.' :: text "json" := rfl
  exact PosixPath.stem_append isName notEmpty (by decide) (by decide)

/-! ## What landing writes -/

theorem loadsContent_dumps
    (promises : Promises python)
    {entries : List (Text × Document Double)}
    {body : ByteArray}
    (notEmpty : entries ≠ [])
    (wellFormed : Document.WellFormed (.object entries))
    (encoded : encodeUtf8 (Document.dumps python.floats (.object entries)) = some body) :
    loadsContent python parsers (.bytes body) =
      .ok (.object (Document.canonicalFields entries)) := by
  obtain ⟨rest, head⟩ := Document.dumps_object_head python.floats notEmpty
  have decoded : decode parsers body =
      .ok (Document.dumps python.floats (.object entries)) := by
    unfold decode
    rw [decodeUtf8_encodeUtf8 encoded, head]
    exact if_pos (by decide)
  have loaded := Document.loads_dumps promises.floats wellFormed
  rw [Document.canonical_object] at loaded
  rw [loadsContent, decoded]
  simp only [loaded, Option.elim_some]

theorem wellFormed_locationFields
    {location : Location Double}
    (accepts : Accepts python location) :
    Document.WellFormed (.object (locationFields location)) := by
  refine .object (locationFields_distinct location) ?_
  simp only [locationFields, List.forall_mem_cons]
  exact ⟨.string _, (canonical_of_within accepts.latitude).2,
    (canonical_of_within accepts.longitude).2, fun entry none => absurd none List.not_mem_nil⟩

theorem wellFormed_landingDocument
    {payload : WeatherPayload Double}
    (accepts : Accepts python payload.location)
    (wellFormed : Document.WellFormed (.object payload.sourcePayload))
    (timestamp : UtcDatetime)
    (checksum : Text) :
    Document.WellFormed (.object (landingDocument payload timestamp checksum)) := by
  refine .object (landingDocument_distinct payload timestamp checksum) ?_
  simp only [landingDocument, List.forall_mem_cons]
  refine ⟨.object (ingestionFields_distinct _ _ _) ?_, wellFormed,
    fun entry none => absurd none List.not_mem_nil⟩
  simp only [ingestionFields, List.forall_mem_cons]
  exact ⟨.string _, .string _, wellFormed_locationFields accepts, .string _,
    fun entry none => absurd none List.not_mem_nil⟩

/-- The location that landing wrote is read back. -/
theorem auditedLocation_landing
    {location : Location Double}
    (accepts : Accepts python location)
    (again : makeLocation python location.name location.latitude location.longitude =
      .ok location)
    (timestamp : UtcDatetime)
    (checksum : Text) :
    auditedLocation python
      (Document.canonicalFields (ingestionFields location timestamp checksum)) = .ok location := by
  have field := Document.lookup_canonicalFields
    (ingestionFields_distinct location timestamp checksum) (text "location")
  have name := Document.lookup_canonicalFields (locationFields_distinct location) (text "name")
  have latitude :=
    Document.lookup_canonicalFields (locationFields_distinct location) (text "latitude")
  have longitude :=
    Document.lookup_canonicalFields (locationFields_distinct location) (text "longitude")
  rw [show (ingestionFields location timestamp checksum).lookup (text "location") =
    some (.object (locationFields location)) from rfl, Option.map_some,
    Document.canonical_object] at field
  rw [show (locationFields location).lookup (text "name") = some (.string location.name) from rfl,
    Option.map_some, Document.canonical] at name
  rw [show (locationFields location).lookup (text "latitude") = some location.latitude from rfl,
    Option.map_some, (canonical_of_within accepts.latitude).1] at latitude
  rw [show (locationFields location).lookup (text "longitude") = some location.longitude from rfl,
    Option.map_some, (canonical_of_within accepts.longitude).1] at longitude
  unfold auditedLocation
  rw [field]
  simp only
  rw [name]
  simp only [requireField, latitude, longitude, ok_bind]
  exact again

/-- A document that landing wrote has no errors at its own path. -/
theorem validateDocument_landing
    (promises : Promises python)
    {payload : WeatherPayload Double}
    (accepts : Accepts python payload.location)
    (again : makeLocation python payload.location.name payload.location.latitude
      payload.location.longitude = .ok payload.location)
    (complete : Complete payload.sourcePayload)
    (wellFormed : Document.WellFormed (.object payload.sourcePayload))
    (timestamp : UtcDatetime)
    {checksum : Text}
    (computed : calculateObjectChecksum python payload = .ok checksum)
    {metadataChecksum : Option Text}
    (metadata : metadataChecksum = none ∨ metadataChecksum = some checksum) :
    validateDocument python parsers (landingPath timestamp.date payload.location.name checksum)
      (Document.canonicalFields (ingestionFields payload.location timestamp checksum))
      (Document.canonicalFields payload.sourcePayload) metadataChecksum = .ok [] := by
  have field : forall (key : Text) (value : Text),
      (ingestionFields payload.location timestamp checksum).lookup key = some (.string value) ->
      (Document.canonicalFields (ingestionFields payload.location timestamp checksum)).lookup key =
        some (.string value) := by
    intro key value found
    rw [Document.lookup_canonicalFields (ingestionFields_distinct _ _ _), found, Option.map_some,
      Document.canonical]
  have forecast : (auditedLocation python
      (Document.canonicalFields (ingestionFields payload.location timestamp checksum)) >>=
        fun location => fromSource location (Document.canonicalFields payload.sourcePayload)) =
      .ok { location := payload.location,
            sourcePayload := Document.canonicalFields payload.sourcePayload } := by
    rw [auditedLocation_landing accepts again, ok_bind]
    exact fromSource_eq_ok.mpr ⟨complete.canonicalFields wellFormed, rfl⟩
  have same : SameForecast
      { location := payload.location,
        sourcePayload := Document.canonicalFields payload.sourcePayload } payload :=
    ⟨rfl, Document.canonical_filter_canonicalFields wellFormed
      fun key => key ≠ text "generationtime_ms"⟩
  obtain ⟨body, _, isDigest⟩ := calculateObjectChecksum_eq_ok.mp computed
  have stem : (landingPath timestamp.date payload.location.name checksum).stem = checksum :=
    stem_landingPath (isDigest ▸ (promises.hexdigest body).1)
  have date : validateIngestionDate parsers (text "ingest_date=" ++ timestamp.date.isoformat)
      (some (.string timestamp.isoformat)) = [] := by
    unfold validateIngestionDate fromisoformat
    rw [strOf, readUtcDatetime_isoformat]
    exact problemUnless_eq_nil.mpr rfl
  unfold validateDocument
  simp only [forecast, same.checksum_eq, computed, ok_bind, stem,
    field (text "source") _ rfl, field (text "object_checksum") _ rfl,
    field (text "ingested_at") _ rfl]
  have parts : (landingPath timestamp.date payload.location.name checksum).parts =
      [text "source=open_meteo", text "ingest_date=" ++ timestamp.date.isoformat,
        text "location=" ++ payload.location.name, checksum ++ text ".json"] := rfl
  rw [parts]
  simp only [date, problemUnless_eq_nil.mpr (isText_iff.mpr rfl), problemUnless_eq_nil.mpr metadata]
  rfl

theorem validateLayout_landingPath (date : Date) (name checksum : Text) :
    validateLayout (landingPath date name checksum) = [] := by
  have datePart : text "ingest_date=" <+: text "ingest_date=" ++ date.isoformat :=
    List.prefix_append _ _
  have locationPart : text "location=" <+: text "location=" ++ name := List.prefix_append _ _
  change problemUnless (text "source=open_meteo" = text "source=open_meteo") _ ++
    (problemUnless (text "ingest_date=" <+: text "ingest_date=" ++ date.isoformat) _ ++
      problemUnless (text "location=" <+: text "location=" ++ name) _) = []
  rw [problemUnless_eq_nil.mpr rfl, problemUnless_eq_nil.mpr datePart,
    problemUnless_eq_nil.mpr locationPart]
  rfl

theorem auditLandingContent_of_document
    {relative : PosixPath}
    {content : Content}
    {metadataChecksum : Option Text}
    {document ingestion sourcePayload : List (Text × Document Double)}
    (layout : validateLayout relative = [])
    (loaded : loadsContent python parsers content = .ok (.object document))
    (isIngestion : document.lookup (text "ingestion") = some (.object ingestion))
    (isPayload : document.lookup (text "payload") = some (.object sourcePayload))
    (validated : validateDocument python parsers relative ingestion sourcePayload
      metadataChecksum = .ok []) :
    auditLandingContent python parsers relative content metadataChecksum =
      .ok (auditItem relative []) := by
  unfold auditLandingContent
  simp only [loaded, isIngestion, isPayload, validated, layout, ok_bind]
  rfl

/-- What an object is prepared from. -/
theorem prepareLandingObject_eq_ok
    {payload : WeatherPayload Double}
    {ingestedAt : Option Timestamp}
    {now : Timestamp}
    {landingObject : LandingObject}
    (prepared : prepareLandingObject python payload ingestedAt now = .ok landingObject) :
    Exists fun timestamp : UtcDatetime =>
      calculateObjectChecksum python payload = .ok landingObject.checksum ∧
        encodeUtf8 (Document.dumps python.floats
          (.object (landingDocument payload timestamp landingObject.checksum))) =
            some landingObject.body ∧
        landingObject.key =
          objectKey timestamp.date payload.location.name landingObject.checksum := by
  simp only [prepareLandingObject, bind_eq_ok_iff, reject_eq_ok_iff] at prepared
  obtain ⟨_, _, timestamp, _, checksum, computed, body, encoded, returned⟩ := prepared
  obtain rfl := Except.ok.inj returned
  refine ⟨timestamp, computed, ?_, rfl⟩
  unfold encode at encoded
  split at encoded
  · next bytes isBytes => rw [isBytes, Except.ok.inj encoded]
  · exact absurd encoded (by simp)

theorem prepareLandingObject_of
    {payload : WeatherPayload Double}
    {ingestedAt : Option Timestamp}
    {now : Timestamp}
    {timestamp : UtcDatetime}
    {checksum : Text}
    {body : ByteArray}
    (aware : python.aware (ingestedAt.getD now) = true)
    (utc : python.astimezoneUtc (ingestedAt.getD now) = some timestamp)
    (computed : calculateObjectChecksum python payload = .ok checksum)
    (encoded : encode (Document.dumps python.floats
      (.object (landingDocument payload timestamp checksum))) = .ok body) :
    prepareLandingObject python payload ingestedAt now =
      .ok { key := objectKey timestamp.date payload.location.name checksum, checksum, body } := by
  simp only [prepareLandingObject, aware, utc, computed, encoded, reject, Bool.true_eq_false,
    if_false, Option.elim_some, ok_bind]
  rfl

theorem ofText_key
    (promises : Promises python)
    {payload : WeatherPayload Double}
    (accepts : Accepts python payload.location)
    {checksum : Text}
    (computed : calculateObjectChecksum python payload = .ok checksum)
    (date : Date) :
    PosixPath.ofText (objectKey date payload.location.name checksum) =
      landingPath date payload.location.name checksum := by
  obtain ⟨body, _, isDigest⟩ := calculateObjectChecksum_eq_ok.mp computed
  have nameNoSlash : char '/' ∉ payload.location.name := fun member =>
    ((accepts.points _ member).visible promises).2 rfl
  exact ofText_objectKey nameNoSlash (isDigest ▸ hexdigest_noSlash promises body)

/-- What landing writes is audited as valid at its own key. -/
theorem auditedValid_landing
    (promises : Promises python)
    {name : Text}
    {latitude longitude : Document Double}
    {location : Location Double}
    (made : makeLocation python name latitude longitude = .ok location)
    {entries : List (Text × Document Double)}
    {payload : WeatherPayload Double}
    (accepted : fromSource location entries = .ok payload)
    (wellFormed : Document.WellFormed (.object entries))
    {ingestedAt : Option Timestamp}
    {now : Timestamp}
    {landingObject : LandingObject}
    (prepared : prepareLandingObject python payload ingestedAt now = .ok landingObject)
    {metadataChecksum : Option Text}
    (metadata : metadataChecksum = none ∨ metadataChecksum = some landingObject.checksum) :
    auditLandingContent python parsers (.ofText landingObject.key) (.bytes landingObject.body)
        metadataChecksum =
      .ok { path := landingObject.key, valid := true, errors := [] } := by
  obtain ⟨complete, rfl⟩ := fromSource_eq_ok.mp accepted
  have accepts := (makeLocation_eq_ok.mp made).2
  have again := makeLocation_again promises made
  obtain ⟨timestamp, computed, encoded, isKey⟩ := prepareLandingObject_eq_ok prepared
  have path : PosixPath.ofText landingObject.key =
      landingPath timestamp.date location.name landingObject.checksum := by
    rw [isKey]
    exact ofText_key promises accepts computed timestamp.date
  have loaded : loadsContent python parsers (.bytes landingObject.body) =
      .ok (.object (Document.canonicalFields
        (landingDocument { location, sourcePayload := entries } timestamp
          landingObject.checksum))) :=
    loadsContent_dumps promises (List.cons_ne_nil _ _)
      (wellFormed_landingDocument accepts wellFormed timestamp landingObject.checksum) encoded
  have fields := Document.lookup_canonicalFields
    (landingDocument_distinct { location, sourcePayload := entries } timestamp
      landingObject.checksum)
  have ingestion := fields (text "ingestion")
  have sourcePayload := fields (text "payload")
  rw [show (landingDocument { location, sourcePayload := entries } timestamp
      landingObject.checksum).lookup (text "ingestion") =
    some (.object (ingestionFields location timestamp landingObject.checksum)) from rfl,
    Option.map_some, Document.canonical_object] at ingestion
  rw [show (landingDocument { location, sourcePayload := entries } timestamp
      landingObject.checksum).lookup (text "payload") = some (.object entries) from rfl,
    Option.map_some, Document.canonical_object] at sourcePayload
  rw [path, auditLandingContent_of_document (validateLayout_landingPath _ _ _) loaded ingestion
    sourcePayload (validateDocument_landing promises accepts again complete wellFormed timestamp
      computed metadata), auditItem, asPosix_landingPath, ← isKey]
  rfl

/-! ## Replays -/

theorem of_verifiedReplay
    {destination : Stored}
    {landingObject : LandingObject}
    {result : LandingResult}
    (replayed : verifiedReplay python parsers destination landingObject = .ok result) :
    Exists fun existingBody =>
      destination = .file existingBody ∧ result.path = landingObject.key ∧
        AuditedValid python parsers (.ofText landingObject.key) (.bytes existingBody) none := by
  unfold verifiedReplay at replayed
  split at replayed
  · exact absurd replayed (by simp)
  · next existingBody =>
      simp only [bind_eq_ok_iff, reject_eq_ok_iff, Bool.not_eq_false] at replayed
      obtain ⟨item, audited, _, isValid, returned⟩ := replayed
      exact ⟨existingBody, rfl, by rw [← Except.ok.inj returned], item, audited, isValid⟩

/-- A write that creates nothing has found a valid object, which it leaves. -/
theorem of_write_existing
    {before atLink after : Text -> Option Stored}
    {payload : WeatherPayload Double}
    {ingestedAt : Option Timestamp}
    {now : Timestamp}
    {result : LandingResult}
    (written : write python parsers before atLink payload ingestedAt now = .ok (after, result))
    (notCreated : result.created = false) :
    Exists fun landingObject => Exists fun existingBody =>
      prepareLandingObject python payload ingestedAt now = .ok landingObject ∧
        after result.path = some (.file existingBody) ∧
        AuditedValid python parsers (.ofText landingObject.key) (.bytes existingBody) none := by
  obtain ⟨landingObject, prepared, found⟩ := bind_eq_ok_iff.mp written
  refine ⟨landingObject, ?_⟩
  split at found
  · next existing isExisting =>
      obtain ⟨replay, replayed, returned⟩ := bind_eq_ok_iff.mp found
      obtain ⟨rfl, rfl⟩ := Prod.mk.inj (Except.ok.inj returned)
      obtain ⟨existingBody, rfl, path, valid⟩ := of_verifiedReplay replayed
      exact ⟨existingBody, prepared, by rw [path, isExisting], valid⟩
  · split at found
    · next existing isExisting =>
        obtain ⟨replay, replayed, returned⟩ := bind_eq_ok_iff.mp found
        obtain ⟨rfl, rfl⟩ := Prod.mk.inj (Except.ok.inj returned)
        obtain ⟨existingBody, rfl, path, valid⟩ := of_verifiedReplay replayed
        exact ⟨existingBody, prepared, by rw [path, isExisting], valid⟩
    · obtain ⟨_, rfl⟩ := Prod.mk.inj (Except.ok.inj found)
      exact absurd notCreated (by simp)

/-- The object that a replay leaves has the forecast that was to be written. -/
theorem sameForecast_of_replay
    (promises : Promises python)
    {payload : WeatherPayload Double}
    (accepts : Accepts python payload.location)
    {before atLink after : Text -> Option Stored}
    {ingestedAt : Option Timestamp}
    {now : Timestamp}
    {result : LandingResult}
    (written : write python parsers before atLink payload ingestedAt now = .ok (after, result))
    (notCreated : result.created = false) :
    Exists fun existingBody => Exists fun existing =>
      after result.path = some (.file existingBody) ∧
        Describes python parsers (.bytes existingBody) existing ∧
          SameForecast existing payload := by
  obtain ⟨landingObject, existingBody, prepared, stored, valid⟩ :=
    of_write_existing written notCreated
  obtain ⟨timestamp, computed, _, isKey⟩ := prepareLandingObject_eq_ok prepared
  obtain ⟨existing, describes, existingAccepts, existingChecksum⟩ := of_auditedValid valid
  obtain ⟨body, _, isDigest⟩ := calculateObjectChecksum_eq_ok.mp computed
  have stem : (PosixPath.ofText landingObject.key).stem = landingObject.checksum := by
    rw [isKey, ofText_key promises accepts computed timestamp.date]
    exact stem_landingPath (isDigest ▸ (promises.hexdigest body).1)
  exact ⟨existingBody, existing, stored, describes,
    sameForecast_of_checksum promises existingAccepts accepts (stem ▸ existingChecksum) computed⟩

/-! ## Agreement -/

/-- Landing and audit agree: a landed object is valid at its key, with or without the
checksum in its metadata, contents that are valid at one path have one forecast, and so has
what a write finds at its key. -/
structure Agrees (python : Python Double Timestamp) (parsers : Parsers Double) : Prop where
  lands : forall (name : Text) (latitude longitude : Document Double)
    (location : Location Double) (entries : List (Text × Document Double))
    (payload : WeatherPayload Double) (ingestedAt : Option Timestamp) (now : Timestamp)
    (landingObject : LandingObject) (metadataChecksum : Option Text),
    makeLocation python name latitude longitude = .ok location ->
    Document.WellFormed (.object entries) ->
    fromSource location entries = .ok payload ->
    prepareLandingObject python payload ingestedAt now = .ok landingObject ->
    metadataChecksum = none ∨ metadataChecksum = some landingObject.checksum ->
      auditLandingContent python parsers (.ofText landingObject.key) (.bytes landingObject.body)
          metadataChecksum =
        .ok { path := landingObject.key, valid := true, errors := [] }
  oneForecast : forall (relative : PosixPath) (left right : Content)
    (leftMetadata rightMetadata : Option Text),
    AuditedValid python parsers relative left leftMetadata ->
    AuditedValid python parsers relative right rightMetadata ->
      Exists fun leftPayload => Exists fun rightPayload =>
        Describes python parsers left leftPayload ∧
          Describes python parsers right rightPayload ∧ SameForecast leftPayload rightPayload
  replays : forall (name : Text) (latitude longitude : Document Double)
    (location : Location Double) (entries : List (Text × Document Double))
    (payload : WeatherPayload Double) (before atLink after : Text -> Option Stored)
    (ingestedAt : Option Timestamp) (now : Timestamp) (result : LandingResult),
    makeLocation python name latitude longitude = .ok location ->
    fromSource location entries = .ok payload ->
    write python parsers before atLink payload ingestedAt now = .ok (after, result) ->
    result.created = false ->
      Exists fun existingBody => Exists fun existing =>
        after result.path = some (.file existingBody) ∧
          Describes python parsers (.bytes existingBody) existing ∧ SameForecast existing payload

/-- The weather landing zone and its audit agree on the format. -/
theorem landing_agrees_with_audit (promises : Promises python) : Agrees python parsers where
  lands := fun _ _ _ _ _ _ _ _ _ _ made wellFormed accepted prepared metadata =>
    auditedValid_landing promises made accepted wellFormed prepared metadata
  oneForecast := fun _ _ _ _ _ leftValid rightValid =>
    sameForecast_of_auditedValid promises leftValid rightValid
  replays := by
    intro name latitude longitude location entries payload before atLink after ingestedAt now
      result made accepted written notCreated
    obtain ⟨_, rfl⟩ := fromSource_eq_ok.mp accepted
    exact sameForecast_of_replay promises (makeLocation_eq_ok.mp made).2 written notCreated

/-! ## A forecast for one hour -/

/-- Two hexadecimal digits for each byte. -/
def hexText : List UInt8 -> Text
  | [] => []
  | byte :: bytes => hexDigit (byte.toNat / 16) :: hexDigit (byte.toNat % 16) :: hexText bytes

theorem hexText_injective : Function.Injective hexText := by
  intro left
  induction left with
  | nil =>
      intro right same
      cases right with
      | nil => rfl
      | cons byte bytes => exact absurd same (List.cons_ne_nil _ _).symm
  | cons byte bytes inductionHypothesis =>
      intro right same
      cases right with
      | nil => exact absurd same (List.cons_ne_nil _ _)
      | cons other others =>
          obtain ⟨high, rest⟩ := List.cons.inj same
          obtain ⟨low, rest⟩ := List.cons.inj rest
          have bound := byte.toNat_lt
          have otherBound := other.toNat_lt
          have sameHigh := congrArg hexValue? high
          have sameLow := congrArg hexValue? low
          rw [hexValue?_hexDigit (by omega), hexValue?_hexDigit (by omega)] at sameHigh sameLow
          have quotient := Option.some.inj sameHigh
          have remainder := Option.some.inj sameLow
          have sameByte : byte = other := UInt8.toNat_inj.mp (by omega)
          rw [sameByte, inductionHypothesis rest]

theorem mem_hexText
    {bytes : List UInt8}
    {point : CodePoint}
    (member : point ∈ hexText bytes) :
    (hexValue? point).isSome = true := by
  induction bytes with
  | nil => exact absurd member List.not_mem_nil
  | cons byte bytes inductionHypothesis =>
      have bound := byte.toNat_lt
      rcases List.mem_cons.mp member with rfl | rest
      · rw [hexValue?_hexDigit (by omega)]
        rfl
      · rcases List.mem_cons.mp rest with rfl | rest
        · rw [hexValue?_hexDigit (by omega)]
          rfl
        · exact inductionHypothesis rest

/-- The answer of the source for one hour. -/
def sampleEntries : List (Text × Document Unit) :=
  [(text "generationtime_ms", .float ()),
    (text "hourly", .object [(text "time", .array [.string (text "2026-01-01T00:00")]),
      (text "temperature_2m", .array [.float ()]),
      (text "relative_humidity_2m", .array [.int 70]), (text "precipitation", .array [.null]),
      (text "wind_speed_10m", .array [.float ()])])]

def sampleLocation : Location Unit where
  name := text "berlin"
  latitude := .float ()
  longitude := .int 13

def samplePayload : WeatherPayload Unit where
  location := sampleLocation
  sourcePayload := sampleEntries

def sampleFloats : FloatFormat Unit where
  write := fun _ => text "21.5"
  read := fun _ => ()

def sampleDigest : Text :=
  text "0b6860ed0023179721e07703bdd05d79baa906e9a58111156f1e4a2a9b4fa2fb"

/-- The digest of the identity of the sample payload, and other texts for other bytes. -/
@[irreducible] def sampleSha256 (body : ByteArray) : Text :=
  if some body = encodeUtf8 (Document.dumps sampleFloats (.object (objectIdentity samplePayload)))
  then sampleDigest
  else List.replicate 65 (char '0') ++ hexText body.data.toList

theorem sampleSha256_injective : Function.Injective sampleSha256 := by
  have digestLength : sampleDigest.length = 64 := by decide
  have longer : forall bytes : List UInt8,
      64 < (List.replicate 65 (char '0') ++ hexText bytes).length := by
    intro bytes
    rw [List.length_append, List.length_replicate]
    omega
  intro left right same
  unfold sampleSha256 at same
  split at same
  · next isLeft =>
      split at same
      · next isRight => exact Option.some.inj (isLeft.trans isRight.symm)
      · exact absurd (digestLength.symm.trans (congrArg List.length same))
          (Nat.ne_of_lt (longer _))
  · split at same
    · exact absurd ((congrArg List.length same).trans digestLength) (Nat.ne_of_gt (longer _))
    · exact ByteArray.ext (Array.toList_inj.mp (hexText_injective (List.append_cancel_left same)))

theorem sampleSha256_hex (body : ByteArray) :
    sampleSha256 body ≠ [] ∧
      forall point, point ∈ sampleSha256 body -> (hexValue? point).isSome = true := by
  unfold sampleSha256
  split
  · exact ⟨by decide, List.all_eq_true.mp (by decide)⟩
  · refine ⟨List.cons_ne_nil _ _, fun point member => ?_⟩
    rcases List.mem_append.mp member with zero | rest
    · rw [List.eq_of_mem_replicate zero]
      rfl
    · exact mem_hexText rest

/-- Letters and digits of ASCII, and one float. -/
def samplePython : Python Unit UtcDatetime where
  isalnum := fun point =>
    isDigit point || (65 ≤ point.val && point.val ≤ 90) || (97 ≤ point.val && point.val ≤ 122)
  lower := fun points => points.map fun point =>
    if 65 ≤ point.val ∧ point.val ≤ 90 then Fin.ofNat 0x110000 (point.val + 32) else point
  floats := sampleFloats
  within := fun bound _ => 22 ≤ bound
  sha256 := sampleSha256
  aware := fun _ => true
  astimezoneUtc := some

def sampleParsers : Parsers Unit where
  decodeOther := fun _ => .error "cannot decode"
  fromisoformatOther := fun _ => .error "Invalid isoformat string"
  str := fun _ => []
  jsonProblem := fun _ => "Expecting value"

theorem samplePromises : Promises samplePython where
  floats :=
    { read_write := fun _ => rfl
      written := fun _ => Or.inr
        ⟨{ integer := text "21", fraction := text ".5", exponent := [] }, rfl, by decide, rfl⟩ }
  lower_fixed := by
    intro points fixed
    refine (List.map_congr_left fun point member => ?_).trans (List.map_id _)
    exact (List.cons.inj (fixed point member)).1
  lower_lowered := by
    intro points point member
    obtain ⟨original, _, rfl⟩ := List.mem_map.mp member
    refine congrArg (fun lowered => [lowered]) (if_neg ?_)
    split
    · next upper =>
        have value : (Fin.ofNat 0x110000 (original.val + 32)).val = original.val + 32 :=
          Nat.mod_eq_of_lt (by omega)
        rw [value]
        omega
    · next notUpper => exact notUpper
  lower_hyphen := by decide
  alnum_visible := by
    intro point alnum
    simp only [samplePython, isDigit, Bool.or_eq_true, Bool.and_eq_true, decide_eq_true_eq] at alnum
    have small : point.val < 123 := by omega
    have visible : forall code : Fin 123, 48 ≤ code.val -> isSpace (Char.ofNat code.val) = false := by
      decide
    refine ⟨visible ⟨point.val, small⟩ (by simp only; omega), ?_⟩
    rintro rfl
    exact absurd alnum (by decide)
  hexdigest := sampleSha256_hex
  injective := sampleSha256_injective

def sampleMoment : UtcDatetime where
  date := { year := 2026, month := 1, day := 1, valid := by decide }
  hour := 6
  minute := 30
  second := 0
  microsecond := 0
  valid := by decide

theorem sampleEntries_wellFormed : Document.WellFormed (.object sampleEntries) := by
  refine .object (by decide) ?_
  simp only [sampleEntries, List.forall_mem_cons]
  refine ⟨.float (), .object (by decide) ?_, fun entry none => absurd none List.not_mem_nil⟩
  simp only [List.forall_mem_cons]
  refine ⟨.array ?_, .array ?_, .array ?_, .array ?_, .array ?_,
    fun entry none => absurd none List.not_mem_nil⟩
  all_goals
    intro value member
    rw [List.mem_singleton.mp member]
    constructor

theorem samplePayload_checksum :
    calculateObjectChecksum samplePython samplePayload = .ok sampleDigest := by
  have encodable : (toChars? (Document.dumps sampleFloats
      (.object (objectIdentity samplePayload)))).isSome = true := by
    decide +kernel
  obtain ⟨characters, areCharacters⟩ := Option.isSome_iff_exists.mp encodable
  obtain ⟨body, isBody⟩ : Exists fun body => encodeUtf8 (Document.dumps sampleFloats
      (.object (objectIdentity samplePayload))) = some body := by
    rw [encodeUtf8, areCharacters]
    exact ⟨_, rfl⟩
  have digest : sampleDigest = samplePython.sha256 body := by
    change sampleDigest = sampleSha256 body
    unfold sampleSha256
    rw [isBody, if_pos rfl]
  exact calculateObjectChecksum_eq_ok.mpr ⟨body, isBody, digest⟩

theorem samplePayload_prepared :
    Exists fun landingObject =>
      prepareLandingObject samplePython samplePayload none sampleMoment = .ok landingObject := by
  have encoded : (encode (Document.dumps samplePython.floats
      (.object (landingDocument samplePayload sampleMoment sampleDigest)))).isOk = true := by
    decide +kernel
  cases body : encode (Document.dumps samplePython.floats
      (.object (landingDocument samplePayload sampleMoment sampleDigest))) with
  | error problem =>
      rw [body] at encoded
      exact absurd encoded Bool.false_ne_true
  | ok bytes => exact ⟨_, prepareLandingObject_of rfl rfl samplePayload_checksum body⟩

/-- The sample forecast for Berlin is landed and audited as valid. -/
theorem sample_landing_agrees_with_audit :
    Agrees samplePython sampleParsers ∧
      Exists fun landingObject =>
        makeLocation samplePython (text " Berlin") (.float ()) (.int 13) = .ok sampleLocation ∧
          fromSource sampleLocation sampleEntries = .ok samplePayload ∧
          prepareLandingObject samplePython samplePayload none sampleMoment = .ok landingObject ∧
          auditLandingContent samplePython sampleParsers (.ofText landingObject.key)
              (.bytes landingObject.body) none =
            .ok { path := landingObject.key, valid := true, errors := [] } := by
  have agrees : Agrees samplePython sampleParsers := landing_agrees_with_audit samplePromises
  obtain ⟨landingObject, prepared⟩ := samplePayload_prepared
  refine ⟨agrees, landingObject, rfl, rfl, prepared, ?_⟩
  exact agrees.lands (text " Berlin") (.float ()) (.int 13) _ _ _ _ _ _ none rfl
    sampleEntries_wellFormed rfl prepared (Or.inl rfl)

end WeatherFormat
end Ingestion
end LakehouseOps
