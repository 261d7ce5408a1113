import LakehouseOps.Ingestion.CommerceBatches
import LakehouseOps.Library.Job
import LakehouseOps.Library.Table

/-!
# The customer history job

The job keeps one row for each version of a customer. Forward mode closes the
current version of a changed customer and inserts the next one in one `MERGE`;
rebuild mode recomputes the whole history from silver with window functions.

A silver row has a customer and an instant by its type. The columns that may be
null are options and are compared the way SQL compares them. The two digests,
of a customer's attributes and of a version's identity, are parameters.
-/

namespace LakehouseOps
namespace Spark
namespace CustomerScd2

open Ingestion (Instant CustomerHistoryMode)
open Library Library.Table

/-- A failure of a Spark job. -/
inductive JobError
  | valueError (message : String)
  | runtimeError (message : String)
  /-- `MERGE` refuses a target row that matches several source rows. -/
  | mergeCardinality
  deriving DecidableEq, Repr

/-- The columns whose change opens a new version. -/
structure CustomerAttributes where
  fullName : Option String
  email : Option String
  emailIsMissing : Option Bool
  registeredAt : Option Instant
  deriving DecidableEq, Repr

/-- A row of `silver.commerce_customers`. -/
structure SilverCustomer extends CustomerAttributes where
  sourceBatchId : Option String
  sourceBatchAt : Instant
  sourceRowHash : Option String
  customerId : String
  deriving DecidableEq, Repr

/-- The digests of the job: `sha2(to_json(struct(..)))` of the attributes, and
`sha2(concat_ws(":", ..))` of customer, attribute digest and batch. -/
structure HistoryDigests (Digest : Type) where
  attributeHash : CustomerAttributes -> Digest
  customerVersionId : String -> Digest -> Option String -> Digest

/-- A silver row with its history columns. -/
structure SourceCustomer (Digest : Type) extends SilverCustomer where
  attributeHash : Digest
  validFrom : Instant

/-- A row of `gold.dim_customers_scd2`. -/
structure HistoryRow (Digest : Type) extends CustomerAttributes where
  customerVersionId : Option Digest
  customerId : String
  attributeHash : Option Digest
  sourceBatchId : Option String
  validFrom : Instant
  validTo : Option Instant
  isCurrent : Bool
  deriving DecidableEq, Repr

variable {Digest : Type} [DecidableEq Digest] (digests : HistoryDigests Digest)

/-- The history job over its table. -/
abbrev HistoryJob (Digest Value : Type) : Type :=
  Job (List (HistoryRow Digest)) JobError Value

/-- `with_history_columns`. -/
def withHistoryColumns (source : List SilverCustomer) : List (SourceCustomer Digest) :=
  source.map fun row =>
    { row with
      attributeHash := digests.attributeHash row.toCustomerAttributes
      validFrom := row.sourceBatchAt }

/-- A version that opens with a source row. -/
def versionOf
    (row : SourceCustomer Digest)
    (validTo : Option Instant) : HistoryRow Digest where
  toCustomerAttributes := row.toCustomerAttributes
  customerVersionId :=
    some (digests.customerVersionId row.customerId row.attributeHash row.sourceBatchId)
  customerId := row.customerId
  attributeHash := some row.attributeHash
  sourceBatchId := row.sourceBatchId
  validFrom := row.validFrom
  validTo := validTo
  isCurrent := validTo.isNone

/-! ## Target validation -/

/-- The rows that `is_current` selects. -/
def currentVersions (target : List (HistoryRow Digest)) : List (HistoryRow Digest) :=
  target.filter HistoryRow.isCurrent

/-- The customers without exactly one current version. -/
def invalidCurrent (target : List (HistoryRow Digest)) : List String :=
  groupsWhere HistoryRow.customerId
    (fun versions => (currentVersions versions).length ≠ 1) target

/-- The rows whose period is empty or disagrees with `is_current`. -/
def invalidPeriods (target : List (HistoryRow Digest)) : List (HistoryRow Digest) :=
  target.filter fun row =>
    row.validTo.any (fun validTo => validTo ≤ row.validFrom) ||
      (row.isCurrent && row.validTo.isSome) ||
      (!row.isCurrent && row.validTo.isNone)

/-- The rows that do not start where the version before them stops. -/
def discontinuousPeriods (target : List (HistoryRow Digest)) : List (HistoryRow Digest) :=
  windowOver HistoryRow.customerId HistoryRow.validFrom
    (fun versions => ((lag versions).filter fun step =>
      sqlNe (step.1.bind HistoryRow.validTo) (some step.2.validFrom)).map Prod.snd)
    target

/-- `validate_target`. -/
def validateTarget : HistoryJob Digest Unit := do
  let target ← Job.read
  Job.reject
    (invalidCurrent target ≠ [] ∨ invalidPeriods target ≠ [] ∨
      discontinuousPeriods target ≠ [])
    (.runtimeError "customer SCD2 target invariants failed")

/-! ## Forward publication -/

/-- A row of the staged changes. -/
structure StagedVersion (Digest : Type) where
  version : HistoryRow Digest
  mergeCustomerId : Option String

/-- The source rows whose change is not newer than the current version. -/
def outOfOrder
    (source : List (SourceCustomer Digest))
    (current : List (HistoryRow Digest)) :
    List (SourceCustomer Digest × HistoryRow Digest) :=
  (innerJoin (fun row version => row.customerId = version.customerId)
    source current).filter fun pair =>
      sqlNe (some pair.1.attributeHash) pair.2.attributeHash &&
        decide (pair.1.validFrom ≤ pair.2.validFrom)

/-- The source rows that are new or differ from the current version. -/
def changedRows
    (source : List (SourceCustomer Digest))
    (current : List (HistoryRow Digest)) : List (SourceCustomer Digest) :=
  ((leftJoin (fun row version => row.customerId = version.customerId)
    source current).filter fun pair =>
      pair.2.isNone ||
        sqlNe (some pair.1.attributeHash)
          (pair.2.bind HistoryRow.attributeHash)).map Prod.fst

/-- Closing rows for the customers that have a current version, and insert rows
for all of them. -/
def stagedChanges
    (changed : List (SourceCustomer Digest))
    (current : List (HistoryRow Digest)) : List (StagedVersion Digest) :=
  let newVersions := changed.map fun row => versionOf digests row none
  let closing :=
    (innerJoin (fun version other => version.customerId = other.customerId)
      newVersions current).map fun pair =>
        { version := pair.1, mergeCustomerId := some pair.1.customerId }
  let inserts := newVersions.map fun version =>
    { version := version, mergeCustomerId := none }
  closing ++ inserts

/-- The `MERGE` that closes current versions and inserts new ones. -/
def mergeChanges
    (target : List (HistoryRow Digest))
    (staged : List (StagedVersion Digest)) : Option (List (HistoryRow Digest)) :=
  merge
    (fun row change => sqlEq (some row.customerId) change.mergeCustomerId && row.isCurrent)
    (fun row change =>
      { row with validTo := some change.version.validFrom, isCurrent := false })
    (fun change => change.mergeCustomerId.isNone)
    (fun change => change.version)
    target staged

/-- The report of a forward run. -/
structure ForwardReport where
  batchId : String
  sourceRows : Nat
  changedRows : Nat
  targetRowsBefore : Nat
  targetRowsAfter : Nat
  rowsInserted : Int
  currentRowsBefore : Nat
  currentRowsAfter : Nat
  deriving DecidableEq, Repr

/-- The publishing statement: nothing when no row changed. -/
def publishChanges
    (changed : List (SourceCustomer Digest))
    (current : List (HistoryRow Digest)) : HistoryJob Digest Unit := do
  if changed.length ≠ 0 then
    let target ← Job.read
    match mergeChanges target (stagedChanges digests changed current) with
    | none => Job.fail .mergeCardinality
    | some merged => Job.commit fun _ => merged
  else pure ()

/-- The checks after the publication. -/
def confirmForward
    (batchId : String)
    (source changed : List (SourceCustomer Digest))
    (before : List (HistoryRow Digest)) : HistoryJob Digest ForwardReport := do
  validateTarget
  let targetAfter ← Job.read
  let selectedCurrent :=
    innerJoin (fun row version => row.customerId = version.customerId)
      source (currentVersions targetAfter)
  let mismatchedCurrent := selectedCurrent.filter fun pair =>
    sqlNe (some pair.1.attributeHash) pair.2.attributeHash
  let rowsInserted : Int := targetAfter.length - before.length
  Job.reject
    (rowsInserted ≠ changed.length ∨ selectedCurrent.length ≠ source.length ∨
      mismatchedCurrent ≠ [])
    (.runtimeError "customer SCD2 post-condition failed")
  return {
    batchId := batchId
    sourceRows := source.length
    changedRows := changed.length
    targetRowsBefore := before.length
    targetRowsAfter := targetAfter.length
    rowsInserted := rowsInserted
    currentRowsBefore := (currentVersions before).length
    currentRowsAfter := (currentVersions targetAfter).length }

/-- `apply_customer_history`. -/
def applyCustomerHistory
    (silver : List SilverCustomer)
    (batchId : String) : HistoryJob Digest ForwardReport := do
  let source := withHistoryColumns digests silver
  Job.reject (source.length = 0)
    (.runtimeError s!"selected commerce customer silver batch is empty: {batchId}")
  Job.reject ((keys (fun row => row.sourceBatchAt) source).length ≠ 1)
    (.runtimeError "selected customer batch has multiple effective timestamps")
  Job.reject ((keys (fun row => row.customerId) source).length ≠ source.length)
    (.runtimeError "selected customer batch contains duplicate customer IDs")
  validateTarget
  let target ← Job.read
  let current := currentVersions target
  Job.reject (outOfOrder source current ≠ [])
    (.runtimeError "selected customer batch is not newer than current history")
  let changed := changedRows source current
  publishChanges digests changed current
  confirmForward batchId source changed target

/-- `write_selected_batch` after the creation of the table. -/
def writeSelectedBatch
    (silver : List SilverCustomer)
    (batchId : String) : HistoryJob Digest ForwardReport :=
  applyCustomerHistory digests
    (silver.filter fun row => sqlEq row.sourceBatchId (some batchId)) batchId

/-! ## Rebuild -/

/-- What a rebuild did to the table. -/
inductive RebuildAction
  | replay
  | replace
  deriving DecidableEq, Repr

/-- The report of a rebuild. -/
structure RebuildReport where
  action : RebuildAction
  sourceRows : Nat
  historyRows : Nat
  deriving DecidableEq, Repr

/-- Whether a required column is null. The customer and the instant are never. -/
def missesRequired (row : SourceCustomer Digest) : Bool :=
  row.fullName.isNone || row.registeredAt.isNone || row.sourceBatchId.isNone ||
    row.emailIsMissing.isNone

/-- The source rows whose attributes differ from the customer's row before. -/
def changes (source : List (SourceCustomer Digest)) : List (SourceCustomer Digest) :=
  windowOver (fun row => row.customerId) (fun row => row.validFrom)
    (fun observed => ((lag observed).filter fun step =>
      step.1.isNone ||
        sqlNe (step.1.map fun row => row.attributeHash)
          (some step.2.attributeHash)).map Prod.snd)
    source

/-- The complete history of a source. -/
def rebuiltHistory (source : List (SourceCustomer Digest)) : List (HistoryRow Digest) :=
  windowOver (fun row => row.customerId) (fun row => row.validFrom)
    (fun changed => (lead changed).map fun step =>
      versionOf digests step.1 (step.2.map fun row => row.validFrom))
    (changes source)

/-- The first instant of each customer in the source. -/
def sourceStart (source : List (SourceCustomer Digest)) (customerId : String) :
    Option Instant :=
  ((rowsOf (fun row => row.customerId) customerId source).map fun row =>
    row.validFrom).min?

/-- The target rows that the source does not reach back to. -/
def uncovered
    (source : List (SourceCustomer Digest))
    (target : List (HistoryRow Digest)) : List (HistoryRow Digest) :=
  target.filter fun row =>
    match sourceStart source row.customerId with
    | none => true
    | some start => decide (row.validFrom < start)

/-- Replace the table when it differs from the history. -/
def publishHistory (history : List (HistoryRow Digest)) :
    HistoryJob Digest RebuildAction := do
  let target ← Job.read
  if exceptAll history target ≠ [] ∨ exceptAll target history ≠ [] then
    Job.commit fun _ => history
    return .replace
  else return .replay

/-- `rebuild_customer_history`. -/
def rebuildCustomerHistory
    (silver : List SilverCustomer) : HistoryJob Digest RebuildReport := do
  let source := withHistoryColumns digests silver
  Job.reject (source.length = 0)
    (.valueError "history rebuild requires nonempty complete silver history")
  Job.reject (source.filter missesRequired ≠ [])
    (.valueError "history rebuild source has missing required values")
  Job.reject
    (groupsWhere (fun row => (row.customerId, row.sourceBatchAt))
      (fun group => 1 < group.length) source ≠ [])
    (.valueError "history rebuild has ambiguous customer effective timestamps")
  Job.reject
    (groupsWhere (fun row => (row.customerId, row.sourceBatchId))
      (fun group => 1 < group.length) source ≠ [])
    (.valueError "history rebuild has duplicate customer batch identities")
  let history := rebuiltHistory digests source
  let target ← Job.read
  Job.reject (uncovered source target ≠ [])
    (.valueError "history rebuild source does not cover existing history")
  let action ← publishHistory history
  validateTarget
  let published ← Job.read
  Job.reject (exceptAll history published ≠ [] ∨ exceptAll published history ≠ [])
    (.runtimeError "history rebuild publication post-condition failed")
  return {
    action := action
    sourceRows := source.length
    historyRows := history.length }

/-! ## The stage -/

/-- The report of the stage in either mode. -/
inductive HistoryReport
  | forward (report : ForwardReport)
  | rebuild (report : RebuildReport)
  deriving DecidableEq, Repr

/-- `main`: the stage reads the whole silver table for a rebuild and the rows
of the selected batch otherwise. -/
def main
    (mode : CustomerHistoryMode)
    (silver : List SilverCustomer)
    (batchId : String) : HistoryJob Digest HistoryReport :=
  match mode with
  | .forward => do return .forward (← writeSelectedBatch digests silver batchId)
  | .rebuild => do return .rebuild (← rebuildCustomerHistory digests silver)

end CustomerScd2
end Spark
end LakehouseOps
