import LakehouseOps.Library.JsonLimits
import LakehouseOps.Ingestion.WeatherFormat

/-!
# What escapes the weather audit

The audit reports the errors that it expects from reading and checking an object. Integers
with too many digits, documents nested too deep and texts that cannot be encoded raise errors
that it does not expect, and the audit of the whole landing zone ends with them.
-/

namespace LakehouseOps
namespace Ingestion
namespace WeatherAuditLimits

open Library Library.Fallible
open WeatherLanding WeatherAudit WeatherFormat

variable {Double Timestamp : Type}

/-- The errors that the audit lets through: a limit on integers or nesting, and a text with
a surrogate. -/
inductive Uncaught
  | overrun
  | surrogate
  deriving DecidableEq

/-! ## The audit with the limits of Python -/

/-- The text that `json.loads` reads. -/
def contentText (parsers : Parsers Double) : Content -> Except String Text
  | .str points =>
      if points.head? = some 0xfeff then
        .error "Unexpected UTF-8 BOM (decode using utf-8-sig): line 1 column 1 (char 0)"
      else .ok points
  | .bytes body => decode parsers body

/-- How deep `str(ingested_at)` descends; a text is printed as it stands. -/
def printedNesting : Option (Document Double) -> Nat
  | some (.string _) => 0
  | some other => other.nesting 1
  | none => 1

/-- `calculate_object_checksum`; an integer that was read has no more digits than may be
written. -/
def objectChecksum
    (limits : JsonLimits)
    (python : Python Double Timestamp)
    (payload : WeatherPayload Double) : Except Uncaught Text :=
  if limits.writing < (Document.object (objectIdentity payload)).nesting 0 then .error .overrun
  else
    match calculateObjectChecksum python payload with
    | .error _ => .error .surrogate
    | .ok checksum => .ok checksum

/-- The checks of the partitions, where the path has four parts. -/
def partitionErrors
    (limits : JsonLimits)
    (parsers : Parsers Double)
    (path : PosixPath)
    (name : Text)
    (ingestedAt : Option (Document Double)) : Except Uncaught (List String) :=
  match path.parts with
  | [_, date, location, _] =>
      if limits.printing < printedNesting ingestedAt then .error .overrun
      else .ok (problemUnless (location = text "location=" ++ name)
        "location partition does not match payload" ++
          validateIngestionDate parsers date ingestedAt)
  | _ => .ok []

/-- The payload that the checks are about. -/
def auditedPayload
    (python : Python Double Timestamp)
    (ingestion sourcePayload : List (Text × Document Double)) :
    Except String (WeatherPayload Double) :=
  auditedLocation python ingestion >>= fun location => fromSource location sourcePayload

/-- `_validate_document` -/
def validateDocumentWithin
    (limits : JsonLimits)
    (python : Python Double Timestamp)
    (parsers : Parsers Double)
    (path : PosixPath)
    (metadataChecksum : Option Text)
    (ingestion sourcePayload : List (Text × Document Double)) : Except Uncaught (List String) :=
  let sourceErrors := problemUnless (isText (ingestion.lookup (text "source")) (text "open_meteo") = true)
    "ingestion source must be open_meteo"
  match auditedPayload python ingestion sourcePayload with
  | .error problem => .ok (sourceErrors ++ ["invalid weather payload: " ++ problem])
  | .ok payload => do
      let expectedChecksum <- objectChecksum limits python payload
      let partition <- partitionErrors limits parsers path payload.location.name
        (ingestion.lookup (text "ingested_at"))
      return sourceErrors ++
        problemUnless (isText (ingestion.lookup (text "object_checksum")) expectedChecksum = true)
          "declared checksum does not match payload" ++
        problemUnless (path.stem = expectedChecksum) "filename checksum does not match payload" ++
        problemUnless (metadataChecksum = none ∨ metadataChecksum = some expectedChecksum)
          "object metadata checksum does not match payload" ++
        partition

/-- `document.get(key)`, where it is a dictionary. -/
def objectField (document : List (Text × Document Double)) (key : String) :
    Option (List (Text × Document Double)) :=
  match document.lookup (text key) with
  | some (.object fields) => some fields
  | _ => none

/-- The audit of a document that was read. -/
def auditDocument
    {Error : Type}
    (validate : List (Text × Document Double) -> List (Text × Document Double) ->
      Except Error (List String))
    (relative : PosixPath)
    (errors : List String) : Document Double -> Except Error AuditItem
  | .object document =>
      match objectField document "ingestion", objectField document "payload" with
      | some ingestion, some sourcePayload => do
          let found <- validate ingestion sourcePayload
          return auditItem relative (errors ++ found)
      | some _, none => .ok (auditItem relative (errors ++ ["payload must be an object"]))
      | none, some _ => .ok (auditItem relative (errors ++ ["ingestion must be an object"]))
      | none, none =>
          .ok (auditItem relative
            (errors ++ ["ingestion must be an object", "payload must be an object"]))
  | _ => .ok (auditItem relative (errors ++ ["document must be a JSON object"]))

/-- `audit_landing_content` -/
def auditLandingContentWithin
    (limits : JsonLimits)
    (python : Python Double Timestamp)
    (parsers : Parsers Double)
    (relative : PosixPath)
    (content : Content)
    (metadataChecksum : Option Text) : Except Uncaught AuditItem :=
  let errors := validateLayout relative
  match contentText parsers content with
  | .error problem => .ok (auditItem relative (errors ++ ["cannot read JSON: " ++ problem]))
  | .ok points =>
      match Document.loadsWithin limits python.floats points with
      | .error .overrun => .error .overrun
      | .error .malformed =>
          .ok (auditItem relative (errors ++ ["cannot read JSON: " ++ parsers.jsonProblem points]))
      | .ok document =>
          auditDocument (validateDocumentWithin limits python parsers relative metadataChecksum)
            relative errors document

/-- `_audit_object`, with what reading the file as UTF-8 gives. -/
def auditObject
    (limits : JsonLimits)
    (python : Python Double Timestamp)
    (parsers : Parsers Double)
    (relative : PosixPath) : Except String Text -> Except Uncaught AuditItem
  | .error problem =>
      .ok (auditItem relative (validateLayout relative ++ ["cannot read JSON: " ++ problem]))
  | .ok points => auditLandingContentWithin limits python parsers relative (.str points) none

/-- `audit_file_landing`, over the sorted files. -/
def auditFileLanding
    (limits : JsonLimits)
    (python : Python Double Timestamp)
    (parsers : Parsers Double)
    (files : List (PosixPath × Except String Text)) : Except Uncaught (List AuditItem) :=
  files.mapM fun file => auditObject limits python parsers file.1 file.2

/-- `_audit_s3_object`, with the body and the checksum of the metadata. -/
def auditS3Object
    (limits : JsonLimits)
    (python : Python Double Timestamp)
    (parsers : Parsers Double)
    (relativeKey : Text) : Except String (ByteArray × Option Text) -> Except Uncaught AuditItem
  | .error problem =>
      .ok { path := relativeKey
            valid := false
            errors := validateLayout (.ofText relativeKey) ++ ["cannot read object: " ++ problem] }
  | .ok object => do
      let item <- auditLandingContentWithin limits python parsers (.ofText relativeKey)
        (.bytes object.1) object.2
      return if object.2.isSome then item
        else { item with
          valid := false, errors := item.errors ++ ["object metadata checksum is missing"] }

/-- `audit_s3_landing`, over the sorted keys. -/
def auditS3Landing
    (limits : JsonLimits)
    (python : Python Double Timestamp)
    (parsers : Parsers Double)
    (objects : List (Text × Except String (ByteArray × Option Text))) :
    Except Uncaught (List AuditItem) :=
  objects.mapM fun object => auditS3Object limits python parsers object.1 object.2

/-! ## When the audit of an object returns -/

section Returns

variable {limits : JsonLimits} {python : Python Double Timestamp} {parsers : Parsers Double}

/-- A coordinate is a number, which has no text. -/
theorem encodable_of_within
    {bound : Nat}
    {value : Document Double}
    (within : withinBound python bound value = .ok true) :
    value.Encodable := by
  cases value with
  | bool value => exact .bool value
  | int value => exact .int value
  | float value => exact .float value
  | null => exact absurd within (by simp [withinBound])
  | string value => exact absurd within (by simp [withinBound])
  | array values => exact absurd within (by simp [withinBound])
  | object entries => exact absurd within (by simp [withinBound])

/-- The identity of an object has a surrogate where its name or its stable payload has one. -/
theorem encodable_objectIdentity_iff
    {payload : WeatherPayload Double}
    (accepts : Accepts python payload.location) :
    (Document.object (objectIdentity payload)).Encodable ↔
      Plain payload.location.name ∧
        (Document.object (stableSourcePayload payload.sourcePayload)).Encodable := by
  have nameIff : (Document.string payload.location.name : Document Double).Encodable ↔
      Plain payload.location.name := by
    constructor
    · intro encodable
      cases encodable with
      | string plain => exact plain
    · exact .string
  have openMeteo : (Document.string (text "open_meteo") : Document Double).Encodable :=
    .string (plain_text "open_meteo")
  unfold objectIdentity locationFields
  simp only [Document.encodable_object_iff, List.forall_mem_cons, plain_text, nameIff, openMeteo,
    encodable_of_within accepts.latitude, encodable_of_within accepts.longitude, true_and,
    List.not_mem_nil, false_implies, implies_true, and_true]

theorem objectChecksum_returns_iff
    (limits : JsonLimits)
    (plainFloats : forall value, Plain (python.floats.write value))
    {payload : WeatherPayload Double}
    (accepts : Accepts python payload.location) :
    (Exists fun checksum => objectChecksum limits python payload = .ok checksum) ↔
      (Document.object (objectIdentity payload)).nesting 0 ≤ limits.writing ∧
        Plain payload.location.name ∧
          (Document.object (stableSourcePayload payload.sourcePayload)).Encodable := by
  rw [← encodable_objectIdentity_iff accepts, ← Document.encode_dumps_iff plainFloats]
  unfold objectChecksum calculateObjectChecksum encode
  by_cases deep : limits.writing < (Document.object (objectIdentity payload)).nesting 0
  · rw [if_pos deep]
    simp [Nat.not_le_of_lt deep]
  · rw [if_neg deep]
    cases encodeUtf8 (Document.dumps python.floats (.object (objectIdentity payload))) with
    | none => simp [bind, Except.bind]
    | some body => simp [bind, Except.bind, pure, Except.pure, Nat.le_of_not_lt deep]

theorem partitionErrors_returns_iff
    (limits : JsonLimits)
    (parsers : Parsers Double)
    (path : PosixPath)
    (name : Text)
    (ingestedAt : Option (Document Double)) :
    (Exists fun errors => partitionErrors limits parsers path name ingestedAt = .ok errors) ↔
      (path.parts.length = 4 -> printedNesting ingestedAt ≤ limits.printing) := by
  unfold partitionErrors
  split
  · next parts =>
      rw [parts]
      by_cases deep : limits.printing < printedNesting ingestedAt
      · rw [if_pos deep]
        simp [Nat.not_le_of_lt deep]
      · rw [if_neg deep]
        exact ⟨fun _ _ => Nat.le_of_not_lt deep, fun _ => ⟨_, rfl⟩⟩
  · next parts =>
      refine ⟨fun _ four => ?_, fun _ => ⟨_, rfl⟩⟩
      obtain ⟨first, second, third, fourth, same⟩ := List.length_eq_four.mp four
      exact absurd same (parts first second third fourth)

/-- The payload is within the limits: its identity is not nested too deep and has no
surrogate, and the time of ingestion is not nested too deep where it is printed. -/
structure PayloadFits
    (limits : JsonLimits)
    (relative : PosixPath)
    (ingestion : List (Text × Document Double))
    (payload : WeatherPayload Double) : Prop where
  shallow : (Document.object (objectIdentity payload)).nesting 0 ≤ limits.writing
  plainName : Plain payload.location.name
  plainPayload : (Document.object (stableSourcePayload payload.sourcePayload)).Encodable
  printable : relative.parts.length = 4 ->
    printedNesting (ingestion.lookup (text "ingested_at")) ≤ limits.printing

theorem auditedPayload_accepts
    {ingestion sourcePayload : List (Text × Document Double)}
    {payload : WeatherPayload Double}
    (audited : auditedPayload python ingestion sourcePayload = .ok payload) :
    Accepts python payload.location := by
  obtain ⟨location, isLocation, isPayload⟩ := bind_eq_ok_iff.mp audited
  obtain ⟨_, rfl⟩ := fromSource_eq_ok.mp isPayload
  unfold auditedLocation at isLocation
  split at isLocation
  · split at isLocation
    · obtain ⟨latitude, _, made⟩ := bind_eq_ok_iff.mp isLocation
      obtain ⟨longitude, _, made⟩ := bind_eq_ok_iff.mp made
      exact (makeLocation_eq_ok.mp made).2
    · exact absurd isLocation (by simp)
  · exact absurd isLocation (by simp)

theorem validateDocumentWithin_returns_iff
    (plainFloats : forall value, Plain (python.floats.write value))
    {relative : PosixPath}
    {metadataChecksum : Option Text}
    {ingestion sourcePayload : List (Text × Document Double)} :
    (Exists fun found => validateDocumentWithin limits python parsers relative metadataChecksum
        ingestion sourcePayload = .ok found) ↔
      forall payload, auditedPayload python ingestion sourcePayload = .ok payload ->
        PayloadFits limits relative ingestion payload := by
  unfold validateDocumentWithin
  cases audited : auditedPayload python ingestion sourcePayload with
  | error problem => exact ⟨fun _ _ other => absurd other (by simp), fun _ => ⟨_, rfl⟩⟩
  | ok payload =>
      have checksumIff := objectChecksum_returns_iff limits plainFloats
        (auditedPayload_accepts audited)
      have partitionIff := partitionErrors_returns_iff limits parsers relative
        payload.location.name (ingestion.lookup (text "ingested_at"))
      simp only [bind_eq_ok_iff, Except.ok.injEq, forall_eq']
      constructor
      · rintro ⟨_, checksum, isChecksum, partition, isPartition, _⟩
        obtain ⟨shallow, plainName, plainPayload⟩ := checksumIff.mp ⟨checksum, isChecksum⟩
        exact ⟨shallow, plainName, plainPayload, partitionIff.mp ⟨partition, isPartition⟩⟩
      · intro fits
        obtain ⟨checksum, isChecksum⟩ :=
          checksumIff.mpr ⟨fits.shallow, fits.plainName, fits.plainPayload⟩
        obtain ⟨partition, isPartition⟩ := partitionIff.mpr fits.printable
        exact ⟨_, checksum, isChecksum, partition, isPartition, rfl⟩

/-- The document has an ingestion and a payload, both objects. -/
structure HasSections
    (document : Document Double)
    (ingestion sourcePayload : List (Text × Document Double)) : Prop where
  fields : Exists fun fields => document = .object fields ∧
    objectField fields "ingestion" = some ingestion ∧
      objectField fields "payload" = some sourcePayload

theorem auditDocument_returns_iff
    {Error : Type}
    {validate : List (Text × Document Double) -> List (Text × Document Double) ->
      Except Error (List String)}
    {relative : PosixPath}
    {errors : List String}
    {document : Document Double} :
    (Exists fun item => auditDocument validate relative errors document = .ok item) ↔
      forall ingestion sourcePayload, HasSections document ingestion sourcePayload ->
        Exists fun found => validate ingestion sourcePayload = .ok found := by
  unfold auditDocument
  split
  · next fields =>
      split
      · next ingestion sourcePayload isIngestion isPayload =>
          constructor
          · rintro ⟨item, returned⟩ other otherPayload ⟨_, same, isOther, isOtherPayload⟩
            rw [← Document.object.inj same] at isOther isOtherPayload
            rw [← Option.some.inj (isIngestion.symm.trans isOther),
              ← Option.some.inj (isPayload.symm.trans isOtherPayload)]
            obtain ⟨found, isFound, _⟩ := bind_eq_ok_iff.mp returned
            exact ⟨found, isFound⟩
          · intro validated
            obtain ⟨found, isFound⟩ := validated ingestion sourcePayload
              ⟨fields, rfl, isIngestion, isPayload⟩
            exact ⟨_, bind_eq_ok_iff.mpr ⟨found, isFound, rfl⟩⟩
      all_goals
        refine ⟨fun _ ingestion sourcePayload has => ?_, fun _ => ⟨_, rfl⟩⟩
        obtain ⟨_, same, isIngestion, isPayload⟩ := has
        rw [← Document.object.inj same] at isIngestion isPayload
        simp_all
  · next notObject =>
      refine ⟨fun _ ingestion sourcePayload has => ?_, fun _ => ⟨_, rfl⟩⟩
      obtain ⟨fields, same, _⟩ := has
      exact absurd same (notObject fields)

/-- Reading the content meets no limit before anything malformed, and a payload that is
checked is within the limits. -/
def Auditable
    (limits : JsonLimits)
    (python : Python Double Timestamp)
    (parsers : Parsers Double)
    (relative : PosixPath)
    (content : Content) : Prop :=
  forall points, contentText parsers content = .ok points ->
    Document.textOverruns limits python.floats points = false ∧
      forall document ingestion sourcePayload payload,
        Document.loads python.floats points = some document ->
          HasSections document ingestion sourcePayload ->
            auditedPayload python ingestion sourcePayload = .ok payload ->
              PayloadFits limits relative ingestion payload

theorem auditLandingContentWithin_returns_iff
    (plainFloats : forall value, Plain (python.floats.write value))
    {relative : PosixPath}
    {content : Content}
    {metadataChecksum : Option Text} :
    (Exists fun item => auditLandingContentWithin limits python parsers relative content
        metadataChecksum = .ok item) ↔
      Auditable limits python parsers relative content := by
  unfold auditLandingContentWithin Auditable
  cases contentText parsers content with
  | error problem => exact ⟨fun _ _ other => absurd other (by simp), fun _ => ⟨_, rfl⟩⟩
  | ok points =>
      simp only [Except.ok.injEq, forall_eq', Document.loadsWithin_eq]
      cases Document.textOverruns limits python.floats points with
      | true =>
          constructor
          · rintro ⟨item, returned⟩
            cases returned
          · exact fun condition => absurd condition.1 (by decide)
      | false =>
          cases Document.loads python.floats points with
          | none =>
              exact ⟨fun _ => ⟨rfl, fun _ _ _ _ other => absurd other (by simp)⟩,
                fun _ => ⟨_, rfl⟩⟩
          | some document =>
              refine auditDocument_returns_iff.trans ?_
              simp only [validateDocumentWithin_returns_iff plainFloats, Option.some.injEq,
                true_and]
              constructor
              · rintro fits _ ingestion sourcePayload payload rfl has audited
                exact fits ingestion sourcePayload has payload audited
              · exact fun fits ingestion sourcePayload has payload audited =>
                  fits document ingestion sourcePayload payload rfl has audited

theorem auditFileLanding_returns_iff
    (plainFloats : forall value, Plain (python.floats.write value))
    {files : List (PosixPath × Except String Text)} :
    (Exists fun items => auditFileLanding limits python parsers files = .ok items) ↔
      forall file, file ∈ files -> forall points, file.2 = .ok points ->
        Auditable limits python parsers file.1 (.str points) := by
  refine mapM_returns_iff.trans (forall₂_congr fun file _ => ?_)
  cases file.2 with
  | error problem => exact ⟨fun _ _ other => absurd other (by simp), fun _ => ⟨_, rfl⟩⟩
  | ok points =>
      simp only [Except.ok.injEq, forall_eq']
      exact auditLandingContentWithin_returns_iff plainFloats

theorem auditS3Landing_returns_iff
    (plainFloats : forall value, Plain (python.floats.write value))
    {objects : List (Text × Except String (ByteArray × Option Text))} :
    (Exists fun items => auditS3Landing limits python parsers objects = .ok items) ↔
      forall object, object ∈ objects -> forall read, object.2 = .ok read ->
        Auditable limits python parsers (.ofText object.1) (.bytes read.1) := by
  refine mapM_returns_iff.trans (forall₂_congr fun object _ => ?_)
  cases object.2 with
  | error problem => exact ⟨fun _ _ other => absurd other (by simp), fun _ => ⟨_, rfl⟩⟩
  | ok read =>
      simp only [Except.ok.injEq, forall_eq', auditS3Object, bind_eq_ok_iff]
      rw [← auditLandingContentWithin_returns_iff plainFloats]
      constructor
      · rintro ⟨_, item, returned, _⟩
        exact ⟨item, returned⟩
      · rintro ⟨item, returned⟩
        exact ⟨_, item, returned, rfl⟩

/-- The audit of an object returns exactly when the object is within the limits of Python, and
the audit of a landing zone exactly when all of its objects are. -/
theorem audit_returns_iff
    (plainFloats : forall value, Plain (python.floats.write value)) :
    (forall relative content metadataChecksum,
      (Exists fun item => auditLandingContentWithin limits python parsers relative content
        metadataChecksum = .ok item) ↔ Auditable limits python parsers relative content) ∧
    (forall files,
      (Exists fun items => auditFileLanding limits python parsers files = .ok items) ↔
        forall file, file ∈ files -> forall points, file.2 = .ok points ->
          Auditable limits python parsers file.1 (.str points)) ∧
    (forall objects,
      (Exists fun items => auditS3Landing limits python parsers objects = .ok items) ↔
        forall object, object ∈ objects -> forall read, object.2 = .ok read ->
          Auditable limits python parsers (.ofText object.1) (.bytes read.1)) :=
  ⟨fun _ _ _ => auditLandingContentWithin_returns_iff plainFloats,
    fun _ => auditFileLanding_returns_iff plainFloats,
    fun _ => auditS3Landing_returns_iff plainFloats⟩

/-! ## The audit without limits -/

theorem loadsContent_eq
    (python : Python Double Timestamp)
    (parsers : Parsers Double)
    (content : Content) :
    loadsContent python parsers content = (contentText parsers content).bind fun points =>
      (Document.loads python.floats points).elim (.error (parsers.jsonProblem points)) .ok := by
  cases content with
  | str points =>
      unfold loadsContent contentText
      dsimp only
      split <;> rfl
  | bytes body =>
      unfold loadsContent contentText
      dsimp only
      cases decode parsers body <;> rfl

theorem objectChecksum_ok
    {payload : WeatherPayload Double}
    {checksum : Text}
    (returned : objectChecksum limits python payload = .ok checksum) :
    calculateObjectChecksum python payload = .ok checksum := by
  unfold objectChecksum at returned
  split at returned
  · cases returned
  · split at returned
    · cases returned
    · next other isOther => rw [isOther, Except.ok.inj returned]

/-- What the checks find within the limits is what they find without them. -/
theorem validateDocumentWithin_ok
    {relative : PosixPath}
    {metadataChecksum : Option Text}
    {ingestion sourcePayload : List (Text × Document Double)}
    {found : List String}
    (returned : validateDocumentWithin limits python parsers relative metadataChecksum ingestion
      sourcePayload = .ok found) :
    validateDocument python parsers relative ingestion sourcePayload metadataChecksum =
      .ok found := by
  unfold validateDocumentWithin auditedPayload at returned
  unfold validateDocument
  cases audited : auditedLocation python ingestion >>= fun location =>
      fromSource location sourcePayload with
  | error problem =>
      rw [audited] at returned
      exact congrArg Except.ok (Except.ok.inj returned)
  | ok payload =>
      rw [audited] at returned
      obtain ⟨checksum, isChecksum, returned⟩ := bind_eq_ok_iff.mp returned
      obtain ⟨partition, isPartition, returned⟩ := bind_eq_ok_iff.mp returned
      refine bind_eq_ok_iff.mpr ⟨checksum, objectChecksum_ok isChecksum, ?_⟩
      rw [← Except.ok.inj returned]
      unfold partitionErrors at isPartition
      rcases parts : relative.parts with
        _ | ⟨source, _ | ⟨date, _ | ⟨location, _ | ⟨head, _ | ⟨further, rest⟩⟩⟩⟩⟩
      case cons.cons.cons.cons.nil =>
        rw [parts] at isPartition
        dsimp only at isPartition
        split at isPartition
        · cases isPartition
        · rw [← Except.ok.inj isPartition]
          rfl
      all_goals
        rw [parts] at isPartition
        rw [← Except.ok.inj isPartition]
        rfl

theorem auditLandingContent_of_document
    {relative : PosixPath}
    {content : Content}
    {metadataChecksum : Option Text}
    {document : Document Double}
    (loaded : loadsContent python parsers content = .ok document) :
    auditLandingContent python parsers relative content metadataChecksum =
      auditDocument (fun ingestion sourcePayload => validateDocument python parsers relative
        ingestion sourcePayload metadataChecksum) relative (validateLayout relative) document := by
  unfold auditLandingContent auditDocument objectField
  rw [loaded]
  cases document with
  | object fields =>
      dsimp only
      cases fields.lookup (text "ingestion") with
      | none =>
          cases fields.lookup (text "payload") with
          | none => rfl
          | some sourcePayload => cases sourcePayload <;> rfl
      | some ingestion =>
          cases fields.lookup (text "payload") with
          | none => cases ingestion <;> rfl
          | some sourcePayload => cases ingestion <;> cases sourcePayload <;> rfl
  | _ => rfl

/-- An audit of a document that validates more returns the same item. -/
theorem auditDocument_mono
    {Error Other : Type}
    {validate : List (Text × Document Double) -> List (Text × Document Double) ->
      Except Error (List String)}
    {other : List (Text × Document Double) -> List (Text × Document Double) ->
      Except Other (List String)}
    (mono : forall ingestion sourcePayload found,
      validate ingestion sourcePayload = .ok found -> other ingestion sourcePayload = .ok found)
    {relative : PosixPath}
    {errors : List String}
    {document : Document Double}
    {item : AuditItem}
    (returned : auditDocument validate relative errors document = .ok item) :
    auditDocument other relative errors document = .ok item := by
  unfold auditDocument at returned ⊢
  split at returned
  · split at returned
    · obtain ⟨found, isFound, same⟩ := bind_eq_ok_iff.mp returned
      refine bind_eq_ok_iff.mpr ⟨found, mono _ _ found isFound, ?_⟩
      exact congrArg Except.ok (Except.ok.inj same)
    all_goals exact congrArg Except.ok (Except.ok.inj returned)
  · exact congrArg Except.ok (Except.ok.inj returned)

/-- Where the audit returns, it returns the item of the audit without limits. -/
theorem auditLandingContentWithin_ok
    {relative : PosixPath}
    {content : Content}
    {metadataChecksum : Option Text}
    {item : AuditItem}
    (returned : auditLandingContentWithin limits python parsers relative content
      metadataChecksum = .ok item) :
    auditLandingContent python parsers relative content metadataChecksum = .ok item := by
  have loaded := loadsContent_eq python parsers content
  unfold auditLandingContentWithin at returned
  cases isText : contentText parsers content with
  | error problem =>
      rw [isText] at returned loaded
      unfold auditLandingContent
      rw [loaded]
      exact congrArg Except.ok (Except.ok.inj returned)
  | ok points =>
      rw [isText] at returned loaded
      dsimp only at returned
      rw [Document.loadsWithin_eq] at returned
      cases overruns : Document.textOverruns limits python.floats points with
      | true =>
          rw [overruns] at returned
          cases returned
      | false =>
          rw [overruns] at returned
          cases isDocument : Document.loads python.floats points with
          | none =>
              rw [isDocument] at returned
              simp only [Except.bind, isDocument, Option.elim_none] at loaded
              unfold auditLandingContent
              rw [loaded]
              exact congrArg Except.ok (Except.ok.inj returned)
          | some document =>
              rw [isDocument] at returned
              simp only [Except.bind, isDocument, Option.elim_some] at loaded
              rw [auditLandingContent_of_document loaded]
              exact auditDocument_mono (fun _ _ _ => validateDocumentWithin_ok) returned

end Returns

/-! A forecast with half of a pair of surrogates, beside an object that is only malformed. -/

def surrogateObject : Text :=
  text "\x7b\"ingestion\": \x7b\"location\": " ++
    text "\x7b\"name\": \"berlin\", \"latitude\": 1, \"longitude\": 2\x7d\x7d, " ++
    text "\"payload\": \x7b\"hourly\": \x7b\"time\": [0], \"temperature_2m\": [0], " ++
    text "\"relative_humidity_2m\": [0], \"precipitation\": [0], \"wind_speed_10m\": [0]\x7d, " ++
    text "\"note\": \"\\ud800\"\x7d\x7d"

def sampleLimits : JsonLimits where
  digits := 4300
  reading := 1000
  writing := 1000
  printing := 1000

theorem surrogateObject_raises :
    auditLandingContentWithin sampleLimits samplePython sampleParsers (.ofText (text "a.json"))
      (.str surrogateObject) none = .error .surrogate := by
  decide +kernel

theorem surrogateObject_not_auditable :
    ¬Auditable sampleLimits samplePython sampleParsers (.ofText (text "a.json"))
      (.str surrogateObject) := by
  intro auditable
  obtain ⟨item, returned⟩ :=
    ((audit_returns_iff fun _ => plain_text "21.5").1 _ _ none).mpr auditable
  rw [surrogateObject_raises] at returned
  cases returned

/-- The audit of the one object raises, and with it the audit of both. -/
theorem surrogate_ends_audit :
    auditLandingContentWithin sampleLimits samplePython sampleParsers (.ofText (text "a.json"))
        (.str surrogateObject) none = .error .surrogate ∧
      auditFileLanding sampleLimits samplePython sampleParsers
        [(.ofText (text "a.json"), .ok surrogateObject), (.ofText (text "b.json"), .ok [])] =
          .error .surrogate := by
  have first : auditObject sampleLimits samplePython sampleParsers (.ofText (text "a.json"))
      (.ok surrogateObject) = .error .surrogate := surrogateObject_raises
  refine ⟨surrogateObject_raises, ?_⟩
  rw [auditFileLanding, List.mapM_cons]
  simp only [first]
  rfl

end WeatherAuditLimits
end Ingestion
end LakehouseOps
