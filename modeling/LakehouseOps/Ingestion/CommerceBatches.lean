import LakehouseOps.Library.Fallible
import Mathlib.Data.List.AList
import Mathlib.Data.List.Sort
import Mathlib.Data.Prod.Lex
import Mathlib.Data.String.Basic

/-!
# The commerce batch planner

The planner lists the landed commit markers, keeps a checkpoint of processed
batches and one retry reservation next to it, and decides which batch runs
next. Each function takes the listing that `discover` returned and the contents
of the two state files, and returns what it would write.

Instants are microseconds since the epoch in UTC. `CommerceBatch.batch_at` is
the normalised text of an instant, which determines the instant, so the model
keeps the instant itself.
-/

namespace LakehouseOps
namespace Ingestion

open Library.Fallible

/-- Microseconds since the epoch, in UTC. -/
abbrev Instant := Int

/-- The error every planner operation raises. -/
structure CommerceBatchError where
  message : String
  deriving DecidableEq, Repr

/-- The public form of a batch (`CommerceBatch.as_dict`), which plans hand out
and the reservation file records. -/
structure BatchEntry where
  batchAt : Instant
  batchId : String
  manifestSha256 : String
  path : String
  deriving DecidableEq, Repr

/-- One committed batch as `discover` reports it. -/
structure CommerceBatch where
  batchId : String
  batchAt : Instant
  manifestSha256 : String
  path : String
  committedAt : Option Instant
  /-- The `source_semantics` of the manifest, when it is a text. -/
  sourceSemantics : Option String
  deriving DecidableEq, Repr

namespace CommerceBatch

def asDict (batch : CommerceBatch) : BatchEntry where
  batchAt := batch.batchAt
  batchId := batch.batchId
  manifestSha256 := batch.manifestSha256
  path := batch.path

@[simp] theorem asDict_batchId (batch : CommerceBatch) :
    batch.asDict.batchId = batch.batchId := rfl

@[simp] theorem asDict_manifestSha256 (batch : CommerceBatch) :
    batch.asDict.manifestSha256 = batch.manifestSha256 := rfl

/-- The sort key `(effective_at, batch_id)` of the listing. -/
def queueKey (batch : CommerceBatch) : Lex (Instant × String) :=
  toLex (batch.batchAt, batch.batchId)

end CommerceBatch

/-- What the checkpoint records about a processed batch. -/
structure ProcessedBatch where
  batchAt : Instant
  manifestSha256 : String
  deriving DecidableEq, Repr

/-- The checkpoint document: one record for each processed batch. -/
structure Checkpoint where
  processedBatches : AList fun _ : String => ProcessedBatch

namespace Checkpoint

/-- The checkpoint of a planner that has processed nothing. -/
def empty : Checkpoint where
  processedBatches := ∅

/-- The record of a batch, if it has been processed. -/
def processed (state : Checkpoint) (batchId : String) : Option ProcessedBatch :=
  state.processedBatches.lookup batchId

/-- Add the record of one batch. -/
def record
    (state : Checkpoint)
    (batchId : String)
    (details : ProcessedBatch) : Checkpoint where
  processedBatches := state.processedBatches.insert batchId details

@[simp] theorem processed_empty (batchId : String) :
    empty.processed batchId = none := rfl

@[simp] theorem processed_record_self
    (state : Checkpoint)
    (batchId : String)
    (details : ProcessedBatch) :
    (state.record batchId details).processed batchId = some details :=
  AList.lookup_insert _

theorem processed_record_other
    (state : Checkpoint)
    {batchId other : String}
    (details : ProcessedBatch)
    (different : other ≠ batchId) :
    (state.record batchId details).processed other = state.processed other :=
  AList.lookup_insert_ne different

end Checkpoint

/-- What a state file yields when it is opened. -/
inductive StateFile (Document : Type)
  | missing
  | unreadable (reason : String)
  | unsupported
  | document (value : Document)
  deriving Repr

/-- The two files of the planner: the checkpoint and the retry reservation. -/
structure PlannerFiles where
  checkpoint : StateFile Checkpoint
  active : StateFile BatchEntry

/-- Load the checkpoint; a missing file is the empty checkpoint. -/
def loadState : StateFile Checkpoint -> Except CommerceBatchError Checkpoint
  | .missing => .ok Checkpoint.empty
  | .unreadable reason =>
      .error ⟨s!"commerce checkpoint is unreadable: {reason}"⟩
  | .unsupported =>
      .error ⟨"commerce checkpoint has an unsupported structure"⟩
  | .document state => .ok state

/-- The record the checkpoint file holds for a batch. -/
def PlannerFiles.processed (files : PlannerFiles) (batchId : String) :
    Option ProcessedBatch :=
  match loadState files.checkpoint with
  | .error _ => none
  | .ok checkpoint => checkpoint.processed batchId

theorem PlannerFiles.processed_eq
    {files : PlannerFiles}
    {checkpoint : Checkpoint}
    (loaded : loadState files.checkpoint = .ok checkpoint)
    (batchId : String) :
    files.processed batchId = checkpoint.processed batchId := by
  simp [processed, loaded]

/-- Sort the committed batches by `(effective_at, batch_id)`. -/
def discover (landed : List CommerceBatch) : List CommerceBatch :=
  landed.insertionSort fun left right => left.queueKey ≤ right.queueKey

/-- The dictionary from batch ids to listed batches; a later entry replaces an
earlier one of the same id. -/
def batchesById
    (ordered : List CommerceBatch)
    (batchId : String) : Option CommerceBatch :=
  (ordered.filter fun batch => batch.batchId = batchId).getLast?

/-- Compare one processed record with the listing. -/
def verifyProcessedBatch
    (batches : String -> Option CommerceBatch)
    (batchId : String)
    (details : ProcessedBatch) : Except CommerceBatchError Unit :=
  match batches batchId with
  | none =>
      .error ⟨s!"processed batch commit marker is missing: {batchId}"⟩
  | some batch => do
      reject (details.manifestSha256 ≠ batch.manifestSha256)
        ⟨s!"committed manifest changed after processing: {batchId}"⟩
      reject (details.batchAt ≠ batch.batchAt)
        ⟨s!"checkpoint batch timestamp differs from committed manifest: {batchId}"⟩

/-- Every processed record must still agree with its commit marker. -/
def verifyProcessedContent
    (state : Checkpoint)
    (batches : String -> Option CommerceBatch) :
    Except CommerceBatchError Unit :=
  state.processedBatches.entries.forM fun entry =>
    verifyProcessedBatch batches entry.1 entry.2

/-- The batch of an unfinished reservation, if there is one. -/
def activeBatch
    (active : StateFile BatchEntry)
    (state : Checkpoint)
    (batches : String -> Option CommerceBatch) :
    Except CommerceBatchError (Option CommerceBatch) :=
  match active with
  | .missing => .ok none
  | .unreadable _ => .error ⟨"commerce active batch is unreadable"⟩
  | .unsupported =>
      .error ⟨"commerce active batch has an unsupported structure"⟩
  | .document recorded =>
      match batches recorded.batchId with
      | none =>
          .error ⟨"committed manifest changed or missing for active batch"⟩
      | some batch => do
          reject (batch.asDict ≠ recorded)
            ⟨"committed manifest changed or missing for active batch"⟩
          -- A crash between checkpoint replacement and cleanup leaves harmless intent.
          return if (state.processed batch.batchId).isSome then none else some batch

/-! ## Planning -/

/-- How the batches of a plan were chosen. -/
inductive PlanMode
  | replay
  | incremental
  deriving DecidableEq, Repr

/-- The plan document. -/
structure Plan where
  batches : List BatchEntry
  committedBatches : Nat
  mode : PlanMode
  processedBatches : Nat
  selectedBatches : Nat
  deriving DecidableEq, Repr

/-- The batches of the listing that the checkpoint does not record, in order. -/
def pendingBatches
    (state : Checkpoint)
    (ordered : List CommerceBatch) : List CommerceBatch :=
  ordered.filter fun batch => (state.processed batch.batchId).isNone

/-- Choose the batches of a plan once the state has been verified. -/
def selectBatches
    (state : Checkpoint)
    (ordered : List CommerceBatch)
    (active : Option CommerceBatch)
    (maxBatches : Nat)
    (replayBatches : List String) :
    Except CommerceBatchError (List CommerceBatch × PlanMode) :=
  if replayBatches ≠ [] then do
    let missing := replayBatches.filter fun batchId =>
      (batchesById ordered batchId).isNone
    reject (missing ≠ [])
      ⟨"replay batch is not committed: " ++ ", ".intercalate missing⟩
    return (replayBatches.filterMap (batchesById ordered), .replay)
  else
    let pending := pendingBatches state ordered
    let selected := match active with
      | none => pending
      | some batch => batch :: pending.filter fun other => other ≠ batch
    .ok (selected.take maxBatches, .incremental)

/-- `CommerceBatchPlanner.plan`. -/
def plan
    (files : PlannerFiles)
    (ordered : List CommerceBatch)
    (maxBatches : Int)
    (replayBatches : List String) : Except CommerceBatchError Plan := do
  reject (maxBatches < 1) ⟨"max_batches must be positive"⟩
  reject ((replayBatches.length : Int) > maxBatches)
    ⟨"replay batch count exceeds max_batches"⟩
  reject (replayBatches.dedup.length ≠ replayBatches.length)
    ⟨"replay batches must be unique"⟩
  let state ← loadState files.checkpoint
  verifyProcessedContent state (batchesById ordered)
  let active ← activeBatch files.active state (batchesById ordered)
  let (selected, mode) ←
    selectBatches state ordered active maxBatches.toNat replayBatches
  return {
    batches := selected.map CommerceBatch.asDict
    committedBatches := ordered.length
    mode := mode
    processedBatches := state.processedBatches.entries.length
    selectedBatches := selected.length }

/-! ## Reservation -/

/-- Look up the selected batch and require its manifest to be unchanged. -/
def selectedBatch
    (ordered : List CommerceBatch)
    (selected : BatchEntry) : Except CommerceBatchError CommerceBatch :=
  match batchesById ordered selected.batchId with
  | none => .error ⟨"committed manifest changed before execution"⟩
  | some batch => do
      reject (batch.manifestSha256 ≠ selected.manifestSha256)
        ⟨"committed manifest changed before execution"⟩
      return batch

/-- `CommerceBatchPlanner.begin`: persist retry ownership of the next batch
before any compute, separately from the checkpoint. -/
def begin
    (files : PlannerFiles)
    (ordered : List CommerceBatch)
    (selected : BatchEntry) : Except CommerceBatchError PlannerFiles := do
  let state ← loadState files.checkpoint
  verifyProcessedContent state (batchesById ordered)
  let active ← activeBatch files.active state (batchesById ordered)
  let batch ← selectedBatch ordered selected
  match (pendingBatches state ordered).head? with
  | none => .error ⟨"selected batch is no longer next for execution"⟩
  | some first => do
      reject (batch ≠ active.getD first)
        ⟨"selected batch is no longer next for execution"⟩
      return if active.isNone then
        { files with active := .document batch.asDict }
      else files

/-! ## Execution options -/

/-- How the customer history stage publishes a batch. -/
inductive CustomerHistoryMode
  | forward
  | rebuild
  deriving DecidableEq, Repr

/-- `CommerceBatchPlanner.execution_options`: nothing for an undeclared source,
otherwise the history mode. A complete snapshot older than an already completed
load is rebuilt. -/
def executionOptions
    (files : PlannerFiles)
    (ordered : List CommerceBatch)
    (selected : BatchEntry) :
    Except CommerceBatchError (Option CustomerHistoryMode) := do
  let state ← loadState files.checkpoint
  verifyProcessedContent state (batchesById ordered)
  let batch ← selectedBatch ordered selected
  let latest := (state.processedBatches.entries.map fun entry =>
    entry.2.batchAt).max?.getD batch.batchAt
  return if batch.sourceSemantics ≠ some "full_snapshot" then none
    else if batch.batchAt < latest then some .rebuild
    else some .forward

/-! ## Commit -/

/-- What a commit will do once every check has passed. -/
inductive CommitDecision
  | alreadyProcessed
  /-- Replace the checkpoint, then remove the reservation when it was active. -/
  | advance (checkpoint : Checkpoint) (reserved : Bool)

/-- `CommerceBatchPlanner._commit_locked` up to the checkpoint replacement. -/
def commitDecision
    (files : PlannerFiles)
    (ordered : List CommerceBatch)
    (batchId : String)
    (expectedManifestSha256 : Option String) :
    Except CommerceBatchError CommitDecision :=
  match batchesById ordered batchId with
  | none => .error ⟨s!"batch is not committed: {batchId}"⟩
  | some batch => do
      let state ← loadState files.checkpoint
      verifyProcessedContent state (batchesById ordered)
      reject (expectedManifestSha256.any fun expected => batch.manifestSha256 ≠ expected)
        ⟨"committed manifest changed during processing"⟩
      let active ← activeBatch files.active state (batchesById ordered)
      if (state.processed batchId).isSome then .ok .alreadyProcessed
      else match active.or (pendingBatches state ordered).head? with
        | none => .error ⟨"StopIteration"⟩
        | some nextBatch => do
            let nextBatchId := nextBatch.batchId
            reject (nextBatchId ≠ batchId)
              ⟨s!"cannot skip earlier unprocessed batch: {nextBatchId}"⟩
            return .advance
              (state.record batchId {
                batchAt := batch.batchAt
                manifestSha256 := batch.manifestSha256 })
              active.isSome

/-- The report of a commit. -/
structure CommitResult where
  batchId : String
  created : Bool
  state : String
  deriving DecidableEq, Repr

/-- The checkpoint file after the replacement. -/
def PlannerFiles.replaceCheckpoint
    (files : PlannerFiles)
    (checkpoint : Checkpoint) : PlannerFiles :=
  { files with checkpoint := .document checkpoint }

/-- The reservation file after `unlink(missing_ok=True)`. -/
def PlannerFiles.unlinkActive (files : PlannerFiles) : PlannerFiles :=
  { files with active := .missing }

end Ingestion
end LakehouseOps
