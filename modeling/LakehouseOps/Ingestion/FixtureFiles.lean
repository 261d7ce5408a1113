import LakehouseOps.Library.CanonicalJson
import LakehouseOps.Ingestion.CommerceFixture

/-!
# The files of a commerce fixture

The generator writes four tables and a manifest of them. A fixture that is there already is
verified against the configuration that is asked for.
-/

namespace LakehouseOps
namespace Ingestion
namespace FixtureGeneration

open Library Library.Document Library.Fallible CommerceFixture
open Spark.SilverCommerce (Timestamp)
open Spark.SilverCommerce.Customers (CustomerColumns)
open Spark.SilverCommerce.Products (ProductColumns)
open Spark.SilverCommerce.Orders (OrderColumns)
open Spark.SilverCommerce.Payments (PaymentColumns)

variable {Double Problem : Type}

/-- The entries of a JSON object. -/
abbrev Fields (Double : Type) := List (Text × Document Double)

/-- A document of texts, integers and objects. -/
inductive Exact : Document Double -> Prop
  | int (value : Int) : Exact (.int value)
  | string (value : Text) : Exact (.string value)
  | object {entries : Fields Double} (distinct : (entries.map Prod.fst).Nodup)
      (each : forall entry, entry ∈ entries -> Exact entry.2) : Exact (.object entries)

theorem Exact.wellFormed {document : Document Double} (exact : Exact document) :
    WellFormed document := by
  induction exact with
  | int value => exact .int value
  | string value => exact .string value
  | object distinct _ inductionHypothesis => exact .object distinct inductionHypothesis

theorem Exact.canonical {document : Document Double} (exact : Exact document) :
    Exact (canonical document) := by
  induction exact with
  | int value => exact .int value
  | string value => exact .string value
  | @object entries distinct _ inductionHypothesis =>
      rw [canonical_object]
      refine .object ?_ fun entry member => ?_
      · refine keys_sortEntries_nodup ?_
        rwa [keys_map_snd]
      · obtain ⟨original, isOriginal, rfl⟩ :=
          List.mem_map.mp ((sortEntries_perm _).mem_iff.mp member)
        exact inductionHypothesis original isOriginal

/-- `[0-9a-f]{64}` -/
def isSha256 (points : Text) : Bool :=
  points.length = 64 ∧ points.all fun point => point ∈ text "0123456789abcdef"

/-! ## Requests -/

attribute [ext] CommerceFixtureConfig

/-- The arguments of `generate_commerce_fixture`. -/
@[ext] structure FixtureRequest where
  config : CommerceFixtureConfig
  accepted : config.postInit = .ok ⟨⟩
  seed : Int
  sourceSemantics : Option Text
  customerRevision : Int

inductive FixtureError (Problem : Type)
  /-- `CommerceFixtureError` -/
  | fixture (message : String)
  /-- `OverflowError` -/
  | overflow (message : String)
  /-- `UnicodeError` -/
  | unicode
  /-- An error of the file system. -/
  | raised (problem : Problem)

/-- The directory of the fixtures, and what the generator calls. -/
structure Generator (Double Problem : Type) where
  output : String
  floats : FloatFormat Double
  lawful : floats.Lawful
  sha256 : ByteArray -> Text
  isDigest : forall content, isSha256 (sha256 content) = true
  /-- `isoformat` of a time in UTC, with `Z` for `+00:00` -/
  isoformat : Timestamp -> Text
  isoformat_injective : forall left right, isoformat left = isoformat right -> left = right
  /-- The draws of `random.Random(seed)`. -/
  draws : forall config : CommerceFixtureConfig, Int -> Nat -> Draw config
  /-- `left == right` -/
  equal : Document Double -> Document Double -> Bool
  equal_iff : forall left right, Exact left -> Exact right ->
    (equal left right = true ↔ canonical left = canonical right)
  /-- What a rename onto a directory that is not empty raises, where it is no
  `FileExistsError`. On Linux it is an `OSError` with `ENOTEMPTY`. -/
  notEmpty : Option Problem
  /-- `FileNotFoundError` -/
  notFound : Problem

/-- A fixture that is asked for: its normalized configuration and its id. -/
structure Plan (Double : Type) where
  request : FixtureRequest
  config : Fields Double
  batchId : Text

namespace Generator

variable (generator : Generator Double Problem)

/-- The encoded text of a document, with what follows it. -/
def encoded (document : Document Double) (rest : Text) :
    Except (FixtureError Problem) ByteArray :=
  match encodeUtf8 (dumps generator.floats document ++ rest) with
  | none => .error .unicode
  | some content => .ok content

/-- `_canonical_json` -/
def canonicalJson (document : Document Double) : Except (FixtureError Problem) ByteArray :=
  generator.encoded document []

/-- `_canonical_json`, and a new line -/
def jsonLine (document : Document Double) : Except (FixtureError Problem) ByteArray :=
  generator.encoded document [10]

/-- `_normalized_config`, with what is added to it -/
def normalizedConfig (request : FixtureRequest) (batchAt : Timestamp) : Fields Double :=
  [(text "customers", .int request.config.customers),
    (text "products", .int request.config.products),
    (text "orders", .int request.config.orders),
    (text "null_customer_emails", .int request.config.nullCustomerEmails),
    (text "duplicate_orders", .int request.config.duplicateOrders),
    (text "late_orders", .int request.config.lateOrders),
    (text "invalid_payments", .int request.config.invalidPayments),
    (text "seed", .int request.seed),
    (text "batch_at", .string (generator.isoformat batchAt))] ++
  (if request.customerRevision = 0 then []
    else [(text "customer_revision", .int request.customerRevision)]) ++
  (request.sourceSemantics.map fun semantics =>
    (text "source_semantics", .string semantics)).toList

/-- `datetime.fromisoformat(config.batch_at).astimezone(UTC)` -/
def instantOf : BatchAt -> Except (FixtureError Problem) Timestamp
  | .aware (some batchAt) => .ok batchAt
  | _ => .error (.overflow "date value out of range")

/-- The part of `generate_commerce_fixture` up to the id of the batch. -/
def plan (request : FixtureRequest) : Except (FixtureError Problem) (Plan Double) := do
  reject (¬(0 ≤ request.customerRevision ∧ request.customerRevision ≤ 10000))
    (.fixture "customer revision must be an integer between 0 and 10000")
  reject (request.sourceSemantics.all (fun semantics => semantics = text "full_snapshot") = false)
    (.fixture "unsupported commerce fixture source semantics")
  let batchAt <- instantOf request.config.batchAt
  let content <- generator.canonicalJson (.object (generator.normalizedConfig request batchAt))
  return {
    request
    config := generator.normalizedConfig request batchAt
    batchId := (generator.sha256 content).take 16 }

/-! ## Tables -/

def textOrNull (value : Option String) : Document Double :=
  (value.map fun value => .string (text value)).getD .null

def timeOrNull (value : Option Timestamp) : Document Double :=
  (value.map fun value => .string (generator.isoformat value)).getD .null

def longOrNull (value : Option Int64) : Document Double :=
  (value.map fun value => .int value.toInt).getD .null

def customerRecord (row : CustomerColumns) : Document Double :=
  .object [(text "customer_id", textOrNull row.customerId),
    (text "full_name", textOrNull row.fullName),
    (text "email", textOrNull row.email),
    (text "registered_at", generator.timeOrNull row.registeredAt)]

def productRecord (row : ProductColumns) : Document Double :=
  .object [(text "product_id", textOrNull row.productId),
    (text "name", textOrNull row.name),
    (text "category", textOrNull row.category),
    (text "unit_price_cents", longOrNull row.unitPriceCents)]

def orderRecord (row : OrderColumns) : Document Double :=
  .object [(text "order_id", textOrNull row.orderId),
    (text "customer_id", textOrNull row.customerId),
    (text "product_id", textOrNull row.productId),
    (text "quantity", (row.quantity.map fun value => .int value.toInt).getD .null),
    (text "unit_price_cents", longOrNull row.unitPriceCents),
    (text "total_cents", longOrNull row.totalCents),
    (text "event_at", generator.timeOrNull row.eventAt),
    (text "ingested_at", generator.timeOrNull row.ingestedAt)]

def paymentRecord (row : PaymentColumns) : Document Double :=
  .object [(text "payment_id", textOrNull row.paymentId),
    (text "order_id", textOrNull row.orderId),
    (text "amount_cents", longOrNull row.amountCents),
    (text "status", textOrNull row.status),
    (text "paid_at", generator.timeOrNull row.paidAt)]

/-- A table with the number of its records and the content of its file. -/
structure TableFile where
  name : Text
  rows : Nat
  content : ByteArray

/-- `_write_json_lines` -/
def tableFile (name : Text) (records : List (Document Double)) :
    Except (FixtureError Problem) TableFile := do
  let lines <- records.mapM generator.jsonLine
  return {
    name
    rows := records.length
    content := lines.foldl (fun content line => content ++ line) ByteArray.empty }

/-- `_write_tables` -/
def tableFiles (request : FixtureRequest) : Except (FixtureError Problem) (List TableFile) := do
  let tables <- (writeTables request.config request.customerRevision.toNat
    (generator.draws request.config request.seed)).mapError .overflow
  let customers <- generator.tableFile (text "customers")
    (tables.customers.map generator.customerRecord)
  let products <- generator.tableFile (text "products") (tables.products.map productRecord)
  let orders <- generator.tableFile (text "orders") (tables.orders.map generator.orderRecord)
  let payments <- generator.tableFile (text "payments")
    (tables.payments.map generator.paymentRecord)
  return [customers, products, orders, payments]

/-! ## The manifest -/

/-- A file of a fixture. -/
inductive FileEntry
  | regular (content : ByteArray)
  | symlink

abbrev Files := List (Text × FileEntry)

def fileName (name : Text) : Text :=
  name ++ text ".jsonl"

def manifestName : Text :=
  text "manifest.json"

def TableFile.entry (table : TableFile) : Text × FileEntry :=
  (fileName table.name, .regular table.content)

/-- The entry of a table in the manifest. -/
def tableDetails (table : TableFile) (content : ByteArray) : Text × Document Double :=
  (table.name, .object [(text "file", .string (fileName table.name)),
    (text "rows", .int table.rows),
    (text "sha256", .string (generator.sha256 content))])

def qualityCases (config : CommerceFixtureConfig) : Fields Double :=
  [(text "null_customer_emails", .int config.nullCustomerEmails),
    (text "duplicate_order_rows", .int config.duplicateOrders),
    (text "late_orders", .int config.lateOrders),
    (text "invalid_payment_amounts", .int config.invalidPayments)]

def manifestFields (plan : Plan Double) (tables : Fields Double) : Fields Double :=
  [(text "schema_version", .int 1),
    (text "batch_id", .string plan.batchId),
    (text "config", .object plan.config),
    (text "tables", .object tables),
    (text "quality_cases", .object (qualityCases plan.request.config))]

/-- The manifest of the tables as they were written. -/
def manifestOf (plan : Plan Double) (tables : List TableFile) : Fields Double :=
  manifestFields plan (tables.map fun table => generator.tableDetails table table.content)

/-- All files of a fixture. -/
def fixtureFiles (plan : Plan Double) : Except (FixtureError Problem) Files := do
  let tables <- generator.tableFiles plan.request
  let manifest <- generator.jsonLine (.object (generator.manifestOf plan tables))
  return tables.map TableFile.entry ++ [(manifestName, .regular manifest)]

/-! ## Verification -/

/-- A text in a message. -/
def shown (points : Text) : String :=
  String.ofList (points.map fun point => Char.ofNat point.val)

/-- The path of a file of a fixture. -/
def path (batchId name : Text) : String :=
  generator.output ++ "/batch_id=" ++ shown batchId ++ "/" ++ shown name

def isText (field : Option (Document Double)) (expected : Text) : Bool :=
  match field with
  | some (.string value) => value = expected
  | _ => false

/-- Whether a field is an integer, and no Boolean, of the given value. -/
def isInteger (field : Option (Document Double)) (expected : Int) : Bool :=
  match field with
  | some (.int value) => value = expected
  | _ => false

def isDigestText (field : Option (Document Double)) : Bool :=
  match field with
  | some (.string value) => isSha256 value
  | _ => false

/-- `set(entries) == set(keys)` -/
def hasKeys (entries : Fields Double) (keys : List Text) : Bool :=
  (entries.all fun entry => entry.1 ∈ keys) && keys.all fun key => key ∈ entries.map Prod.fst

def expectedRows (config : CommerceFixtureConfig) : List (Text × Int) :=
  [(text "customers", config.customers),
    (text "products", config.products),
    (text "orders", config.orders + config.duplicateOrders),
    (text "payments", config.orders)]

def isTableEntry (tables : Fields Double) (expected : Text × Int) : Bool :=
  match tables.lookup expected.1 with
  | some (.object details) =>
      hasKeys details [text "file", text "rows", text "sha256"] &&
        isText (details.lookup (text "file")) (fileName expected.1) &&
        isInteger (details.lookup (text "rows")) expected.2 &&
        isDigestText (details.lookup (text "sha256"))
  | _ => false

/-- The tables of a manifest with the structure that is expected. -/
def isStructured (plan : Plan Double) (manifest : Fields Double) : Bool :=
  match manifest.lookup (text "tables") with
  | some (.object tables) =>
      isInteger (manifest.lookup (text "schema_version")) 1 &&
        hasKeys tables ((expectedRows plan.request.config).map Prod.fst) &&
        ((manifest.lookup (text "quality_cases")).any fun cases =>
          generator.equal cases (.object (qualityCases plan.request.config))) &&
        (expectedRows plan.request.config).all (isTableEntry tables)
  | _ => false

def invalidStructure : FixtureError Problem :=
  .fixture "existing fixture manifest structure is invalid"

def mismatch : FixtureError Problem :=
  .fixture "existing fixture does not match the requested configuration"

def unreadable : FixtureError Problem :=
  .fixture "existing fixture manifest is unreadable"

/-- `json.loads(manifest_path.read_text(encoding="utf-8"))` -/
def loadManifest (batchId : Text) : Option FileEntry ->
    Except (FixtureError Problem) (Document Double)
  | none => .error unreadable
  | some .symlink => .error (.fixture
      ("existing fixture manifest symlink is not allowed: " ++ generator.path batchId manifestName))
  | some (.regular content) =>
      match decodeUtf8 content with
      | none => .error .unicode
      | some points =>
          match loads generator.floats points with
          | none => .error unreadable
          | some manifest => .ok manifest

/-- The part of `_verify_existing` that reads the manifest. -/
def checkManifest (plan : Plan Double) (files : Files) :
    Except (FixtureError Problem) (Fields Double) := do
  let document <- generator.loadManifest plan.batchId (files.lookup manifestName)
  match document with
  | .object manifest => do
      reject (isText (manifest.lookup (text "batch_id")) plan.batchId = false ∨
        (manifest.lookup (text "config")).any
          (fun config => generator.equal config (.object plan.config)) = false) mismatch
      reject (generator.isStructured plan manifest = false) invalidStructure
      return manifest
  | _ => .error invalidStructure

/-- One turn of the loop of `_verify_existing` over the files. -/
def checkTable (batchId : Text) (files : Files) (entry : Text × Document Double) :
    Except (FixtureError Problem) Unit :=
  match files.lookup (fileName entry.1), entry.2 with
  | some (.regular content), .object details =>
      if isText (details.lookup (text "sha256")) (generator.sha256 content) = true then .ok ()
      else .error (.fixture ("existing fixture failed checksum verification: " ++
        generator.path batchId (fileName entry.1)))
  | _, _ => .error (.fixture ("existing fixture failed checksum verification: " ++
      generator.path batchId (fileName entry.1)))

/-- The entries of `tables` of a manifest. -/
def tablesOf (manifest : Fields Double) : Fields Double :=
  match manifest.lookup (text "tables") with
  | some (.object tables) => tables
  | _ => []

/-- `CommerceFixtureResult`; its path follows from the id. -/
structure CommerceFixtureResult where
  batchId : Text
  created : Bool
  rowCount : Int
  tables : List (Text × Int)

/-- `details["rows"]` of an entry of a manifest that was verified or made. -/
def rowsOf (entry : Text × Document Double) : Option (Text × Int) :=
  match entry.2 with
  | .object details =>
      match details.lookup (text "rows") with
      | some (.int rows) => some (entry.1, rows)
      | _ => none
  | _ => none

/-- `_result` -/
def result (batchId : Text) (created : Bool) (manifest : Fields Double) :
    CommerceFixtureResult where
  batchId
  created
  rowCount := (((tablesOf manifest).filterMap rowsOf).map Prod.snd).sum
  tables := (tablesOf manifest).filterMap rowsOf

/-! ## Configurations -/

/-- The keys of a normalized configuration, with those that may be missing. -/
def configKeys : List Text :=
  [text "customers", text "products", text "orders", text "null_customer_emails",
    text "duplicate_orders", text "late_orders", text "invalid_payments", text "seed",
    text "batch_at"] ++ [text "customer_revision"] ++ [text "source_semantics"]

theorem keys_normalizedConfig (request : FixtureRequest) (batchAt : Timestamp) :
    ((generator.normalizedConfig request batchAt).map Prod.fst).Sublist configKeys := by
  rw [normalizedConfig, List.map_append, List.map_append]
  refine (List.Sublist.append (List.Sublist.refl _) ?_).append ?_
  · split
    · exact List.nil_sublist _
    · exact List.Sublist.refl _
  · cases request.sourceSemantics with
    | none => exact List.nil_sublist _
    | some semantics => exact List.Sublist.refl _

theorem exact_normalizedConfig (request : FixtureRequest) (batchAt : Timestamp) :
    Exact (.object (generator.normalizedConfig request batchAt)) := by
  refine .object ((generator.keys_normalizedConfig request batchAt).nodup (by decide)) ?_
  simp only [normalizedConfig, List.forall_mem_append, List.forall_mem_cons]
  refine ⟨⟨⟨.int _, .int _, .int _, .int _, .int _, .int _, .int _, .int _, .string _,
    List.forall_mem_nil _⟩, ?_⟩, ?_⟩
  · intro entry member
    split at member
    · exact absurd member List.not_mem_nil
    · rw [List.mem_singleton.mp member]
      exact .int _
  · intro entry member
    obtain ⟨semantics, _, rfl⟩ := Option.map_eq_some_iff.mp (Option.mem_toList.mp member)
    exact .string semantics

/-! ## Plans -/

variable {generator}

/-- A plan has the instant of its request, and the configuration of both. -/
theorem plan_eq_ok {request : FixtureRequest} {plan : Plan Double}
    (isPlan : generator.plan request = .ok plan) :
    plan.request = request ∧ Exists fun batchAt =>
      request.config.batchAt = .aware (some batchAt) ∧
        plan.config = generator.normalizedConfig request batchAt := by
  simp only [Generator.plan, bind_eq_ok_iff] at isPlan
  obtain ⟨_, _, _, _, batchAt, isInstant, _, _, same⟩ := isPlan
  rw [← Except.ok.inj same]
  refine ⟨rfl, batchAt, ?_, rfl⟩
  cases isAware : request.config.batchAt with
  | malformed =>
      rw [isAware] at isInstant
      cases isInstant
  | naive =>
      rw [isAware] at isInstant
      cases isInstant
  | aware instant =>
      cases instant with
      | none =>
          rw [isAware] at isInstant
          cases isInstant
      | some instant =>
          rw [isAware] at isInstant
          rw [Except.ok.inj isInstant]

theorem exact_config {request : FixtureRequest} {plan : Plan Double}
    (isPlan : generator.plan request = .ok plan) : Exact (.object plan.config) := by
  obtain ⟨_, batchAt, _, same⟩ := plan_eq_ok isPlan
  rw [same]
  exact generator.exact_normalizedConfig request batchAt

theorem lookup_customerRevision (request : FixtureRequest) (batchAt : Timestamp) :
    (generator.normalizedConfig request batchAt).lookup (text "customer_revision") =
      if request.customerRevision = 0 then none else some (.int request.customerRevision) := by
  unfold normalizedConfig
  by_cases isPlain : request.customerRevision = 0
  · rw [if_pos isPlain, if_pos isPlain]
    cases request.sourceSemantics with
    | none => rfl
    | some semantics => rfl
  · rw [if_neg isPlain, if_neg isPlain]
    rfl

theorem lookup_sourceSemantics (request : FixtureRequest) (batchAt : Timestamp) :
    (generator.normalizedConfig request batchAt).lookup (text "source_semantics") =
      request.sourceSemantics.map .string := by
  unfold normalizedConfig
  by_cases isPlain : request.customerRevision = 0
  · rw [if_pos isPlain]
    cases request.sourceSemantics with
    | none => rfl
    | some semantics => rfl
  · rw [if_neg isPlain]
    cases request.sourceSemantics with
    | none => rfl
    | some semantics => rfl

/-- The configuration tells the request. -/
theorem request_unique {left right : FixtureRequest} {leftAt rightAt : Timestamp}
    (isLeft : left.config.batchAt = .aware (some leftAt))
    (isRight : right.config.batchAt = .aware (some rightAt))
    (same : canonical (.object (generator.normalizedConfig left leftAt)) =
      canonical (.object (generator.normalizedConfig right rightAt))) : left = right := by
  have field := canonical_field_eq
    (generator.exact_normalizedConfig left leftAt).wellFormed.distinct
    (generator.exact_normalizedConfig right rightAt).wellFormed.distinct same
  have integer : forall (key : Text) {first second : Int},
      (generator.normalizedConfig left leftAt).lookup key = some (.int first) ->
      (generator.normalizedConfig right rightAt).lookup key = some (.int second) ->
      first = second := by
    intro key first second isFirst isSecond
    have sameField := field key
    rw [isFirst, isSecond] at sameField
    exact Document.int.inj (Option.some.inj sameField)
  have batchAt : leftAt = rightAt :=
    generator.isoformat_injective leftAt rightAt
      (Document.string.inj (Option.some.inj (field (text "batch_at"))))
  have customerRevision : left.customerRevision = right.customerRevision := by
    have revision := field (text "customer_revision")
    rw [lookup_customerRevision, lookup_customerRevision] at revision
    by_cases isLeftPlain : left.customerRevision = 0
    · by_cases isRightPlain : right.customerRevision = 0
      · rw [isLeftPlain, isRightPlain]
      · rw [if_pos isLeftPlain, if_neg isRightPlain] at revision
        exact absurd revision.symm (Option.some_ne_none _)
    · by_cases isRightPlain : right.customerRevision = 0
      · rw [if_neg isLeftPlain, if_pos isRightPlain] at revision
        exact absurd revision (Option.some_ne_none _)
      · rw [if_neg isLeftPlain, if_neg isRightPlain] at revision
        exact Document.int.inj (Option.some.inj revision)
  have sourceSemantics : left.sourceSemantics = right.sourceSemantics := by
    have semantics := field (text "source_semantics")
    rw [lookup_sourceSemantics, lookup_sourceSemantics, Option.map_map, Option.map_map] at semantics
    exact Option.map_injective (fun _ _ same => Document.string.inj same) semantics
  have config : left.config = right.config := by
    ext
    · exact integer (text "customers") rfl rfl
    · exact integer (text "products") rfl rfl
    · exact integer (text "orders") rfl rfl
    · exact integer (text "null_customer_emails") rfl rfl
    · exact integer (text "duplicate_orders") rfl rfl
    · exact integer (text "late_orders") rfl rfl
    · exact integer (text "invalid_payments") rfl rfl
    · rw [isLeft, isRight, batchAt]
  have seed : left.seed = right.seed := integer (text "seed") rfl rfl
  exact FixtureRequest.ext config seed sourceSemantics customerRevision

end Generator

end FixtureGeneration
end Ingestion
end LakehouseOps
