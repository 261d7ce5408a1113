import Mathlib
import LakehouseOps.Library.Job
import LakehouseOps.Library.Ranking
import LakehouseOps.Spark.SilverWeather

/-!
# Commerce silver

Four jobs classify the rows of one bronze batch. A row that breaks no quality rule is merged
into the silver table, another one into the table of rejects with the rules that it breaks.
The jobs differ in their columns, rules and keys; the rest is stated once.
-/

namespace LakehouseOps
namespace Spark
namespace SilverCommerce

open Library Library.Table
open SilverWeather (blank)

/-! ## Rows -/

/-- A hexadecimal digest. -/
structure Digest where
  text : String
  hex : (text.toList.all fun digit => digit.isDigit || ('a' ≤ digit && digit ≤ 'f')) = true
  deriving DecidableEq

theorem Digest.text_injective : Function.Injective Digest.text := by
  rintro ⟨left, _⟩ ⟨right, _⟩ same
  simpa using same

instance : LinearOrder Digest :=
  LinearOrder.lift' Digest.text Digest.text_injective

/-- A time in microseconds. -/
abbrev Timestamp := Int

/-- A row of a bronze table. -/
structure BronzeRow (Columns : Type) where
  batchId : String
  sourceBatchAt : Option Timestamp
  sourceRowHash : Digest
  sourceRowOccurrence : Int
  columns : Columns
  deriving DecidableEq

/-- A row of a silver table. -/
structure SilverRow (SilverColumns : Type) where
  sourceBatchId : String
  sourceBatchAt : Option Timestamp
  sourceRowHash : Digest
  columns : SilverColumns
  deriving DecidableEq

/-- A row of a table of rejects. -/
structure RejectRow (RejectColumns : Type) where
  sourceBatchId : String
  sourceBatchAt : Option Timestamp
  sourceRowHash : Digest
  sourceRowOccurrence : Int
  columns : RejectColumns
  qualityErrors : List String
  rejectId : Digest
  deriving DecidableEq

variable {Columns SilverColumns RejectColumns : Type}

/-- A classified row of bronze. -/
abbrev ClassifiedRow (Columns : Type) := Classified (BronzeRow Columns) String

/-- The rows of a batch. -/
def ofBatch (batchId : String) (bronze : List (BronzeRow Columns)) : List (BronzeRow Columns) :=
  bronze.filter fun row => row.batchId = batchId

/-- The order of equal keys: the greatest hash, then the least occurrence. -/
def hashOrder (row : BronzeRow Columns) : Digestᵒᵈ ×ₗ Int :=
  toLex (OrderDual.toDual row.sourceRowHash, row.sourceRowOccurrence)

/-! ## The job -/

/-- What a job has of its own. -/
structure SilverJob (Columns SilverColumns RejectColumns : Type) where
  subject : String
  classify : List (BronzeRow Columns) -> List (ClassifiedRow Columns)
  silverColumns : BronzeRow Columns -> SilverColumns
  rejectColumns : BronzeRow Columns -> RejectColumns
  mergeKey : SilverColumns -> Option String
  /-- The further counts of the report, of the valid rows and of the silver table. -/
  metrics : List (SilverRow SilverColumns) -> List (SilverRow SilverColumns) ->
    List (String × Nat)

/-- The two tables of a job. -/
structure SilverTables (SilverColumns RejectColumns : Type) where
  silver : List (SilverRow SilverColumns)
  rejects : List (RejectRow RejectColumns)

structure SilverReport where
  batchId : String
  bronzeRows : Nat
  validRows : Nat
  rejectedRows : Nat
  metrics : List (String × Nat)
  silverRowsBefore : Nat
  silverBatchRows : Nat
  silverRowsInserted : Int
  rejectRowsBefore : Nat
  rejectBatchRows : Nat
  rejectRowsInserted : Int
  deriving DecidableEq

section Job

variable (job : SilverJob Columns SilverColumns RejectColumns)

def SilverJob.silverRow (row : BronzeRow Columns) : SilverRow SilverColumns where
  sourceBatchId := row.batchId
  sourceBatchAt := row.sourceBatchAt
  sourceRowHash := row.sourceRowHash
  columns := job.silverColumns row

/-- `concat_ws(":", batch_id, source_row_hash, cast(source_row_occurrence as string))` -/
def rejectText (batchId : String) (hash : Digest) (occurrence : Int) : String :=
  batchId ++ ":" ++ hash.text ++ ":" ++ toString occurrence

def SilverJob.rejectRow (sha2 : String -> Digest) (entry : ClassifiedRow Columns) :
    RejectRow RejectColumns where
  sourceBatchId := entry.row.batchId
  sourceBatchAt := entry.row.sourceBatchAt
  sourceRowHash := entry.row.sourceRowHash
  sourceRowOccurrence := entry.row.sourceRowOccurrence
  columns := job.rejectColumns entry.row
  qualityErrors := entry.errors
  rejectId := sha2 (rejectText entry.row.batchId entry.row.sourceRowHash
    entry.row.sourceRowOccurrence)

/-- The rows without a quality error. -/
def SilverJob.valid (classified : List (ClassifiedRow Columns)) :
    List (SilverRow SilverColumns) :=
  (accepted classified).map fun entry => job.silverRow entry.row

/-- The rows with a quality error. -/
def SilverJob.rejects (sha2 : String -> Digest) (classified : List (ClassifiedRow Columns)) :
    List (RejectRow RejectColumns) :=
  (rejected classified).map (job.rejectRow sha2)

/-- The condition of the merge into silver. -/
def SilverJob.sameKey (target source : SilverRow SilverColumns) : Bool :=
  target.sourceBatchId = source.sourceBatchId &&
    sqlEq (job.mergeKey target.columns) (job.mergeKey source.columns)

/-- The condition of the merge into the rejects. -/
def sameReject (target source : RejectRow RejectColumns) : Bool :=
  target.rejectId = source.rejectId

def silverOfBatch (batchId : String) (silver : List (SilverRow SilverColumns)) :
    List (SilverRow SilverColumns) :=
  silver.filter fun row => row.sourceBatchId = batchId

def rejectsOfBatch (batchId : String) (rejects : List (RejectRow RejectColumns)) :
    List (RejectRow RejectColumns) :=
  rejects.filter fun row => row.sourceBatchId = batchId

/-- What the job returns. -/
def SilverJob.report
    (batchId : String)
    (bronzeRows : Nat)
    (valid : List (SilverRow SilverColumns))
    (rejects : List (RejectRow RejectColumns))
    (before after : SilverTables SilverColumns RejectColumns) : SilverReport where
  batchId := batchId
  bronzeRows := bronzeRows
  validRows := valid.length
  rejectedRows := rejects.length
  metrics := job.metrics valid (silverOfBatch batchId after.silver)
  silverRowsBefore := (silverOfBatch batchId before.silver).length
  silverBatchRows := (silverOfBatch batchId after.silver).length
  silverRowsInserted :=
    (silverOfBatch batchId after.silver).length - (silverOfBatch batchId before.silver).length
  rejectRowsBefore := (rejectsOfBatch batchId before.rejects).length
  rejectBatchRows := (rejectsOfBatch batchId after.rejects).length
  rejectRowsInserted :=
    (rejectsOfBatch batchId after.rejects).length - (rejectsOfBatch batchId before.rejects).length

/-- `write_selected_batch`, once the tables exist. Each merge is a commit. -/
def writeSelectedBatch
    (sha2 : String -> Digest)
    (bronzeTable : List (BronzeRow Columns))
    (batchId : String) :
    Job (SilverTables SilverColumns RejectColumns) String SilverReport := do
  let classified := job.classify (ofBatch batchId bronzeTable)
  Job.reject (classified.length = 0)
    ("selected commerce " ++ job.subject ++ " batch is empty: " ++ batchId)
  let valid := job.valid classified
  let rejects := job.rejects sha2 classified
  Job.reject (valid.length + rejects.length ≠ classified.length)
    ("commerce " ++ job.subject ++ " quality counts do not reconcile")
  let before ← Job.read
  Job.commit fun tables =>
    { tables with silver := mergeInsert job.sameKey tables.silver valid }
  Job.commit fun tables =>
    { tables with rejects := mergeInsert sameReject tables.rejects rejects }
  let after ← Job.read
  Job.reject
    (¬((silverOfBatch batchId after.silver).length = valid.length ∧
      (rejectsOfBatch batchId after.rejects).length = rejects.length))
    ("commerce " ++ job.subject ++ " silver post-condition failed")
  return job.report batchId classified.length valid rejects before after

end Job

/-- A number that is there and not positive. -/
def nonPositive (value : Option Int64) : Bool :=
  value.any fun value => value ≤ 0

/-! ## Customers -/

namespace Customers

structure CustomerColumns where
  customerId : Option String
  fullName : Option String
  email : Option String
  registeredAt : Option Timestamp
  deriving DecidableEq

structure CustomerSilver extends CustomerColumns where
  emailIsMissing : Bool
  deriving DecidableEq

/-- A part of an address: no at sign and no space of Java's patterns. -/
def addressPart (part : List Char) : Bool :=
  part ≠ [] && part.all fun character =>
    character ≠ '@' && character ∉ [' ', '\t', '\n', '\x0b', '\x0c', '\r']

/-- A text that `[^@\s]+@[^@\s]+\.[^@\s]+` matches whole. -/
def isAddress (text : List Char) : Bool :=
  let domain := (text.dropWhile fun character => character ≠ '@').drop 1
  addressPart (text.takeWhile fun character => character ≠ '@') && addressPart domain &&
    ((domain.drop 1).dropLast).contains '.'

/-- `EMAIL_PATTERN`, where `$` also stands before a final line terminator. -/
def matchesEmailPattern (email : String) : Bool :=
  let text := email.toList
  isAddress text ||
    text.getLast?.any (fun last => last ∈ ['\n', '\r', '\u0085', '\u2028', '\u2029']) &&
      isAddress text.dropLast ||
    ['\r', '\n'].isSuffixOf text && isAddress text.dropLast.dropLast

/-- The rules of `quality_errors` but the last one. -/
def rules (row : BronzeRow CustomerColumns) : List (Bool × String) :=
  [(blank row.columns.customerId, "missing_customer_id"),
    (blank row.columns.fullName, "missing_full_name"),
    (row.columns.registeredAt.isNone, "missing_registered_at"),
    (row.columns.email.any fun email => !matchesEmailPattern email, "invalid_email")]

def businessKey (row : BronzeRow CustomerColumns) : Option String :=
  row.columns.customerId

/-- `classify` -/
def classify (source : List (BronzeRow CustomerColumns)) :
    List (ClassifiedRow CustomerColumns) :=
  classifyRanked businessKey hashOrder rules "duplicate_customer_id" source

def job : SilverJob CustomerColumns CustomerSilver CustomerColumns where
  subject := "customer"
  classify := classify
  silverColumns row :=
    { toCustomerColumns := row.columns, emailIsMissing := row.columns.email.isNone }
  rejectColumns row := row.columns
  mergeKey columns := columns.customerId
  metrics valid _ :=
    [("missing_email_rows", (valid.filter fun row => row.columns.emailIsMissing).length)]

end Customers

/-! ## Products -/

namespace Products

structure ProductColumns where
  productId : Option String
  name : Option String
  category : Option String
  unitPriceCents : Option Int64
  deriving DecidableEq

/-- The rules of `quality_errors` but the last one. -/
def rules (row : BronzeRow ProductColumns) : List (Bool × String) :=
  [(blank row.columns.productId, "missing_product_id"),
    (blank row.columns.name, "missing_name"),
    (blank row.columns.category, "missing_category"),
    (row.columns.unitPriceCents.isNone, "missing_unit_price_cents"),
    (nonPositive row.columns.unitPriceCents, "non_positive_unit_price_cents")]

def businessKey (row : BronzeRow ProductColumns) : Option String :=
  row.columns.productId

/-- `classify` -/
def classify (source : List (BronzeRow ProductColumns)) : List (ClassifiedRow ProductColumns) :=
  classifyRanked businessKey hashOrder rules "duplicate_product_id" source

def job : SilverJob ProductColumns ProductColumns ProductColumns where
  subject := "product"
  classify := classify
  silverColumns row := row.columns
  rejectColumns row := row.columns
  mergeKey columns := columns.productId
  metrics _ _ := []

end Products

/-! ## Orders -/

namespace Orders

open Customers (CustomerColumns)
open Products (ProductColumns)

structure OrderColumns where
  orderId : Option String
  customerId : Option String
  productId : Option String
  quantity : Option Int32
  unitPriceCents : Option Int64
  totalCents : Option Int64
  eventAt : Option Timestamp
  ingestedAt : Option Timestamp
  deriving DecidableEq

/-- The columns of both tables of the job. -/
structure OrderSilver extends OrderColumns where
  isLate : Option Bool
  deriving DecidableEq

/-- An order with its rank and the references that were found. -/
structure EnrichedOrder where
  row : BronzeRow OrderColumns
  orderRank : Nat
  knownCustomerId : Option String
  knownProductId : Option String

/-- The total is not the quantity times the price. A product that does not fit a bigint
wraps around. -/
def totalMismatch (columns : OrderColumns) : Bool :=
  match columns.quantity, columns.unitPriceCents, columns.totalCents with
  | some quantity, some unitPriceCents, some totalCents =>
      totalCents ≠ quantity.toInt64 * unitPriceCents
  | _, _, _ => false

/-- The rules of `quality_errors` but the last one. -/
def rules
    (knownCustomerId knownProductId : Option String)
    (row : BronzeRow OrderColumns) : List (Bool × String) :=
  [(blank row.columns.orderId, "missing_order_id"),
    (blank row.columns.customerId, "missing_customer_id"),
    (blank row.columns.productId, "missing_product_id"),
    (row.columns.quantity.isNone, "missing_quantity"),
    (row.columns.quantity.any fun quantity => quantity ≤ 0, "non_positive_quantity"),
    (row.columns.unitPriceCents.isNone, "missing_unit_price_cents"),
    (nonPositive row.columns.unitPriceCents, "non_positive_unit_price_cents"),
    (row.columns.totalCents.isNone, "missing_total_cents"),
    (nonPositive row.columns.totalCents, "non_positive_total_cents"),
    (totalMismatch row.columns, "total_mismatch"),
    (row.columns.eventAt.isNone, "missing_event_at"),
    (row.columns.ingestedAt.isNone, "missing_ingested_at"),
    (knownCustomerId.isNone, "unknown_customer_id"),
    (knownProductId.isNone, "unknown_product_id")]

/-- `quality_errors` -/
def qualityErrors (order : EnrichedOrder) : List String :=
  triggered (rules order.knownCustomerId order.knownProductId order.row ++
    [(decide (1 < order.orderRank), "duplicate_order_id")])

/-- The latest ingestion comes first, null last, then the order of equal keys. -/
def orderOrder (row : BronzeRow OrderColumns) : (WithBot Int)ᵒᵈ ×ₗ Digestᵒᵈ ×ₗ Int :=
  toLex (OrderDual.toDual row.columns.ingestedAt, hashOrder row)

def businessKey (row : BronzeRow OrderColumns) : Option String :=
  row.columns.orderId

/-- The distinct ids of a batch. -/
def knownIds
    (id : BronzeRow Columns -> Option String)
    (batchId : String)
    (bronzeTable : List (BronzeRow Columns)) : List (Option String) :=
  ((ofBatch batchId bronzeTable).map id).dedup

/-- The rows with their ranks and the references found by two left joins. -/
def enriched
    (customers products : List (Option String))
    (source : List (BronzeRow OrderColumns)) : List EnrichedOrder :=
  let ranked := rowNumbered businessKey orderOrder source
  let withCustomers := leftJoin
    (fun (order : BronzeRow OrderColumns × Nat) (known : Option String) =>
      sqlEq order.1.columns.customerId known)
    ranked customers
  let withProducts := leftJoin
    (fun (order : (BronzeRow OrderColumns × Nat) × Option (Option String))
        (known : Option String) => sqlEq order.1.1.columns.productId known)
    withCustomers products
  withProducts.map fun order =>
    { row := order.1.1.1
      orderRank := order.1.1.2
      knownCustomerId := order.1.2.join
      knownProductId := order.2.join }

/-- `classify`; `is_late` follows from the row. -/
def classify
    (customerTable : List (BronzeRow CustomerColumns))
    (productTable : List (BronzeRow ProductColumns))
    (batchId : String)
    (source : List (BronzeRow OrderColumns)) : List (ClassifiedRow OrderColumns) :=
  let customers := knownIds Customers.businessKey batchId customerTable
  let products := knownIds Products.businessKey batchId productTable
  (enriched customers products source).map fun order =>
    { row := order.row, errors := qualityErrors order }

/-- `event_at < source_batch_at - INTERVAL 30 DAYS` -/
def isLate (row : BronzeRow OrderColumns) : Option Bool :=
  match row.columns.eventAt, row.sourceBatchAt with
  | some eventAt, some sourceBatchAt =>
      some (decide (eventAt < sourceBatchAt - 30 * 86400 * 1000000))
  | _, _ => none

def job
    (customerTable : List (BronzeRow CustomerColumns))
    (productTable : List (BronzeRow ProductColumns))
    (batchId : String) : SilverJob OrderColumns OrderSilver OrderSilver where
  subject := "order"
  classify := classify customerTable productTable batchId
  silverColumns row := { toOrderColumns := row.columns, isLate := isLate row }
  rejectColumns row := { toOrderColumns := row.columns, isLate := isLate row }
  mergeKey columns := columns.orderId
  metrics _ silver :=
    [("late_rows", (silver.filter fun row => row.columns.isLate = some true).length)]

end Orders

/-! ## Payments -/

namespace Payments

structure PaymentColumns where
  paymentId : Option String
  orderId : Option String
  amountCents : Option Int64
  status : Option String
  paidAt : Option Timestamp
  deriving DecidableEq

/-- `PAYMENT_STATES` -/
def paymentStates : List String :=
  ["captured", "pending", "declined", "failed", "cancelled", "refunded"]

/-- The rules of `quality_errors` but the last one. -/
def rules (row : BronzeRow PaymentColumns) : List (Bool × String) :=
  [(blank row.columns.paymentId, "missing_payment_id"),
    (blank row.columns.orderId, "missing_order_id"),
    (row.columns.amountCents.isNone, "missing_amount_cents"),
    (nonPositive row.columns.amountCents, "non_positive_amount_cents"),
    (blank row.columns.status, "missing_status"),
    (!blank row.columns.status && row.columns.status.any fun status => status ∉ paymentStates,
      "unknown_status"),
    (row.columns.paidAt.isNone, "missing_paid_at")]

def businessKey (row : BronzeRow PaymentColumns) : Option String :=
  row.columns.paymentId

/-- `classify`: every payment of a repeated id is an error. -/
def classify (source : List (BronzeRow PaymentColumns)) : List (ClassifiedRow PaymentColumns) :=
  source.map fun row =>
    { row
      errors := triggered (rules row ++
        [(decide (1 < (rowsOf businessKey (businessKey row) source).length),
          "duplicate_payment_id")]) }

def job : SilverJob PaymentColumns PaymentColumns PaymentColumns where
  subject := "payment"
  classify := classify
  silverColumns row := row.columns
  rejectColumns row := row.columns
  mergeKey columns := columns.paymentId
  metrics _ _ := []

end Payments

end SilverCommerce
end Spark
end LakehouseOps
