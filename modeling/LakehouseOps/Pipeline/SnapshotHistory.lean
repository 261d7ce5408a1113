import LakehouseOps.Ingestion.PlannerRules
import LakehouseOps.Library.Machine
import LakehouseOps.Spark.CustomerScd2Reference

/-!
# Customer history over whole runs

One runner takes the batches of a full-snapshot source through plan, begin,
execution options, the silver and the history stage, and commit, while further
batches land in any order. It may stop after any of these steps and start again
with a plan. The history table is compared with the reference history of the
batches processed so far.
-/

namespace LakehouseOps
namespace Pipeline
namespace SnapshotHistory

open Ingestion Library Library.Table
open Spark.CustomerScd2

/-- The batches of a source that delivers full snapshots, and the silver rows
that the silver stage derives from each of them. -/
structure SnapshotSource where
  batches : List CommerceBatch
  silverRows : String -> List SilverCustomer
  fullSnapshot : forall batch, batch ∈ batches ->
    batch.sourceSemantics = some "full_snapshot"
  distinctIds : (batches.map CommerceBatch.batchId).Nodup
  distinctInstants : (batches.map CommerceBatch.batchAt).Nodup
  ofBatch : forall batch, batch ∈ batches ->
    forall row, row ∈ silverRows batch.batchId ->
      row.sourceBatchId = some batch.batchId ∧ row.sourceBatchAt = batch.batchAt
  distinctCustomers : forall batch, batch ∈ batches ->
    ((silverRows batch.batchId).map fun row => row.customerId).Nodup

/-- Where the runner stands. -/
inductive Runner
  | idle
  | planned (selected : BatchEntry)
  | reserved (selected : BatchEntry)
  | resolved (selected : BatchEntry) (mode : CustomerHistoryMode)
  | refined (selected : BatchEntry) (mode : CustomerHistoryMode)
  | published (selected : BatchEntry)
  /-- The checkpoint is replaced; the reservation may have to be removed. -/
  | replaced (reserved : Bool)
  deriving DecidableEq

/-- What survives a crash: the landing zone, the planner files and the tables. -/
structure Store (Digest : Type) where
  landed : List CommerceBatch
  files : PlannerFiles
  silver : List SilverCustomer
  history : List (HistoryRow Digest)

/-- The durable store and the runner. -/
structure State (Digest : Type) where
  store : Store Digest
  runner : Runner

/-- A landing batch, the next step of the runner, or its end at any point. -/
inductive Event
  | land (batch : CommerceBatch)
  | plan
  | begin
  | resolve
  | refine
  | publish
  | replace (withinBudget : Bool)
  | unlink
  | crash

variable {Digest : Type} [DecidableEq Digest]
variable (digests : HistoryDigests Digest) (source : SnapshotSource)

/-- Put-if-absent on the commit marker of a batch of the source. -/
def land (store : Store Digest) (batch : CommerceBatch) : Store Digest :=
  if batch ∈ source.batches ∧ batch.batchId ∉ store.landed.map CommerceBatch.batchId then
    { store with landed := batch :: store.landed }
  else store

/-- Plan one batch. -/
def plan (state : State Digest) : State Digest :=
  match state.runner with
  | .idle =>
      match Ingestion.plan state.store.files (discover state.store.landed) 1 [] with
      | .error _ => state
      | .ok planned =>
          match planned.batches with
          | [] => state
          | selected :: _ => { state with runner := .planned selected }
  | _ => state

/-- Reserve the planned batch. -/
def begin (state : State Digest) : State Digest :=
  match state.runner with
  | .planned selected =>
      match Ingestion.begin state.store.files (discover state.store.landed) selected with
      | .error _ => { state with runner := .idle }
      | .ok files =>
          { store := { state.store with files := files }
            runner := .reserved selected }
  | _ => state

/-- Read the execution options; the history stage runs forward by default. -/
def resolve (state : State Digest) : State Digest :=
  match state.runner with
  | .reserved selected =>
      match executionOptions state.store.files (discover state.store.landed) selected with
      | .error _ => { state with runner := .idle }
      | .ok options =>
          { state with runner := .resolved selected (options.getD .forward) }
  | _ => state

/-- Whether two silver rows have the same key. -/
def sameSilverKey (left right : SilverCustomer) : Bool :=
  sqlEq left.sourceBatchId right.sourceBatchId && decide (left.customerId = right.customerId)

/-- The silver stage adds the rows of the batch that are not there yet. -/
def refine (state : State Digest) : State Digest :=
  match state.runner with
  | .resolved selected mode =>
      { store :=
          { state.store with
            silver := mergeInsert sameSilverKey state.store.silver
              (source.silverRows selected.batchId) }
        runner := .refined selected mode }
  | _ => state

/-- The history stage in the resolved mode. What it published stays when it
fails. -/
def publish (state : State Digest) : State Digest :=
  match state.runner with
  | .refined selected mode =>
      let execution := main digests mode state.store.silver selected.batchId
        state.store.history
      { store := { state.store with history := execution.state }
        runner := match execution.result with
          | .ok _ => .published selected
          | .error _ => .idle }
  | _ => state

/-- The commit up to the checkpoint replacement. -/
def replace (state : State Digest) (withinBudget : Bool) : State Digest :=
  match state.runner with
  | .published selected =>
      match commitDecision state.store.files (discover state.store.landed)
          selected.batchId (some selected.manifestSha256) with
      | .ok (.advance checkpoint reserved) =>
          if withinBudget then
            { store :=
                { state.store with
                  files := state.store.files.replaceCheckpoint checkpoint }
              runner := .replaced reserved }
          else { state with runner := .idle }
      | _ => { state with runner := .idle }
  | _ => state

/-- The rest of the commit. -/
def unlink (state : State Digest) : State Digest :=
  match state.runner with
  | .replaced reserved =>
      { store :=
          { state.store with
            files := if reserved then state.store.files.unlinkActive
              else state.store.files }
        runner := .idle }
  | _ => state

/-- The effect of one event. -/
def step (state : State Digest) : Event -> State Digest
  | .land batch => { state with store := land source state.store batch }
  | .plan => plan state
  | .begin => begin state
  | .resolve => resolve state
  | .refine => refine source state
  | .publish => publish digests state
  | .replace withinBudget => replace state withinBudget
  | .unlink => unlink state
  | .crash => { state with runner := .idle }

/-- The pipeline, started with nothing landed and empty tables. -/
def pipeline : Machine (State Digest) Event where
  initial :=
    { store :=
        { landed := []
          files := { checkpoint := .missing, active := .missing }
          silver := []
          history := [] }
      runner := .idle }
  step := step digests source

/-! ## The batches processed so far -/

/-- The batches of the source that the checkpoint records. -/
def processedBatches (files : PlannerFiles) : List CommerceBatch :=
  source.batches.filter fun batch => (files.processed batch.batchId).isSome

/-- The silver rows of some batches. -/
def rowsOfBatches (batches : List CommerceBatch) : List SilverCustomer :=
  batches.flatMap fun batch => source.silverRows batch.batchId

/-- The silver rows of the batches processed so far. -/
def processedSilver (files : PlannerFiles) : List SilverCustomer :=
  rowsOfBatches source (processedBatches source files)

/-- The batch is reserved and not yet processed. -/
structure InFlight (store : Store Digest) (batch : CommerceBatch) : Prop where
  landed : batch ∈ store.landed
  active : store.files.active = .document batch.asDict
  pending : store.files.processed batch.batchId = none

/-- The silver table holds the rows of the processed batches and of one more. -/
def Refined (store : Store Digest) (batch : CommerceBatch) : Prop :=
  store.silver.Perm
    (processedSilver source store.files ++ source.silverRows batch.batchId)

/-- The history table is the reference history of the processed batches. -/
def Current (store : Store Digest) : Prop :=
  store.history.Perm (referenceHistory digests (processedSilver source store.files))

/-- The history table is the reference history of the processed batches and of
one more. -/
def Ahead (store : Store Digest) (batch : CommerceBatch) : Prop :=
  store.history.Perm (referenceHistory digests
    (processedSilver source store.files ++ source.silverRows batch.batchId))

/-- The tables hold the processed batches, and of the batch in flight its silver
rows or both its silver rows and its history. -/
def Content (store : Store Digest) : Prop :=
  (store.silver.Perm (processedSilver source store.files) ∧
      Current digests source store) ∨
    Exists fun batch => InFlight store batch ∧ Refined source store batch ∧
      (Current digests source store ∨ Ahead digests source store batch)

/-- What the runner has established about the batch it works on. -/
def Progress (store : Store Digest) : Runner -> Prop
  | .idle => True
  | .planned _ => True
  | .reserved selected => Exists fun batch =>
      InFlight store batch ∧ batch.batchId = selected.batchId
  | .resolved selected mode => Exists fun batch =>
      InFlight store batch ∧ batch.batchId = selected.batchId ∧
        (mode = .forward -> forall other, other ∈ processedBatches source store.files ->
          other.batchAt < batch.batchAt)
  | .refined selected mode => Exists fun batch =>
      InFlight store batch ∧ batch.batchId = selected.batchId ∧
        (mode = .forward -> forall other, other ∈ processedBatches source store.files ->
          other.batchAt < batch.batchAt) ∧
        Refined source store batch
  | .published selected => Exists fun batch =>
      InFlight store batch ∧ batch.batchId = selected.batchId ∧
        Refined source store batch ∧ Ahead digests source store batch
  | .replaced _ => store.silver.Perm (processedSilver source store.files) ∧
      Current digests source store

/-- What holds in every reachable store. -/
structure Consistent (state : State Digest) : Prop where
  landed : forall batch, batch ∈ state.store.landed -> batch ∈ source.batches
  content : Content digests source state.store
  progress : Progress digests source state.store state.runner

/-! ## The rows of several batches -/

@[simp] theorem rowsOfBatches_append (left right : List CommerceBatch) :
    rowsOfBatches source (left ++ right) =
      rowsOfBatches source left ++ rowsOfBatches source right :=
  List.flatMap_append

@[simp] theorem rowsOfBatches_singleton (batch : CommerceBatch) :
    rowsOfBatches source [batch] = source.silverRows batch.batchId := by
  simp [rowsOfBatches]

theorem mem_processedBatches
    {files : PlannerFiles}
    {batch : CommerceBatch} :
    batch ∈ processedBatches source files ↔
      batch ∈ source.batches ∧ (files.processed batch.batchId).isSome := by
  simp [processedBatches]

theorem nodup_processedBatches (files : PlannerFiles) :
    (processedBatches source files).Nodup :=
  (source.distinctIds.of_map _).filter _

/-- A silver row of some batches belongs to one of them. -/
theorem mem_rowsOfBatches
    {batches : List CommerceBatch}
    (known : forall batch, batch ∈ batches -> batch ∈ source.batches)
    {row : SilverCustomer}
    (member : row ∈ rowsOfBatches source batches) :
    Exists fun batch => batch ∈ batches ∧ row ∈ source.silverRows batch.batchId ∧
      row.sourceBatchId = some batch.batchId ∧ row.sourceBatchAt = batch.batchAt := by
  obtain ⟨batch, present, rowMember⟩ := List.mem_flatMap.mp member
  exact ⟨batch, present, rowMember, source.ofBatch batch (known batch present) row rowMember⟩

/-- Different batches of the source have different instants. -/
theorem batch_eq_of_batchAt
    {left right : CommerceBatch}
    (leftKnown : left ∈ source.batches)
    (rightKnown : right ∈ source.batches)
    (same : left.batchAt = right.batchAt) :
    left = right :=
  List.inj_on_of_nodup_map source.distinctInstants leftKnown rightKnown same

theorem batch_eq_of_batchId
    {left right : CommerceBatch}
    (leftKnown : left ∈ source.batches)
    (rightKnown : right ∈ source.batches)
    (same : left.batchId = right.batchId) :
    left = right :=
  List.inj_on_of_nodup_map source.distinctIds leftKnown rightKnown same

/-- The rows of different batches are distinct. -/
theorem distinctRows_rowsOfBatches
    {batches : List CommerceBatch}
    (known : forall batch, batch ∈ batches -> batch ∈ source.batches)
    (distinct : batches.Nodup) :
    DistinctRows (rowsOfBatches source batches) := by
  unfold DistinctRows rowsOfBatches
  rw [List.map_flatMap, List.nodup_flatMap]
  constructor
  · intro batch present
    apply List.Nodup.of_map Prod.fst
    rw [List.map_map]
    exact source.distinctCustomers batch (known batch present)
  · have apart := distinct.imp_of_mem
      (S := fun left right : CommerceBatch => left ∈ source.batches ∧
        right ∈ source.batches ∧ left ≠ right)
      fun leftMember rightMember different =>
        ⟨known _ leftMember, known _ rightMember, different⟩
    refine apart.imp ?_
    rintro left right ⟨leftKnown, rightKnown, different⟩ key leftKey rightKey
    obtain ⟨leftRow, leftMember, rfl⟩ := List.mem_map.mp leftKey
    obtain ⟨rightRow, rightMember, same⟩ := List.mem_map.mp rightKey
    have leftAt := (source.ofBatch left leftKnown leftRow leftMember).2
    have rightAt := (source.ofBatch right rightKnown rightRow rightMember).2
    have sameAt := (Prod.mk.inj same).2
    rw [leftAt, rightAt] at sameAt
    exact different (batch_eq_of_batchAt source leftKnown rightKnown sameAt.symm)

section InFlight

variable {source}
variable {store : Store Digest} {batch : CommerceBatch}

omit [DecidableEq Digest] in
/-- The processed batches and the one in flight are different batches. -/
theorem nodup_processed_append
    (landed : forall batch, batch ∈ store.landed -> batch ∈ source.batches)
    (inFlight : InFlight store batch) :
    (forall other, other ∈ processedBatches source store.files ++ [batch] ->
        other ∈ source.batches) ∧
      (processedBatches source store.files ++ [batch]).Nodup := by
  constructor
  · intro other member
    rcases List.mem_append.mp member with processed | isBatch
    · exact (mem_processedBatches source |>.mp processed).1
    · rw [List.mem_singleton.mp isBatch]
      exact landed batch inFlight.landed
  · rw [List.nodup_append]
    refine ⟨nodup_processedBatches source _, List.nodup_singleton batch, ?_⟩
    intro other processed last isBatch same
    have recorded := (mem_processedBatches source |>.mp processed).2
    rw [same, List.mem_singleton.mp isBatch, inFlight.pending] at recorded
    contradiction

omit [DecidableEq Digest] in
/-- The rows of the batch in flight are distinct from the processed ones. -/
theorem distinctRows_inFlight
    (landed : forall batch, batch ∈ store.landed -> batch ∈ source.batches)
    (inFlight : InFlight store batch) :
    DistinctRows (processedSilver source store.files ++ source.silverRows batch.batchId) := by
  obtain ⟨known, distinct⟩ := nodup_processed_append landed inFlight
  have rows := distinctRows_rowsOfBatches source known distinct
  rwa [rowsOfBatches_append, rowsOfBatches_singleton] at rows

omit [DecidableEq Digest] in
/-- Later rows extend the processed ones when the batch is newer. -/
theorem extends_inFlight
    (landed : forall batch, batch ∈ store.landed -> batch ∈ source.batches)
    (inFlight : InFlight store batch)
    (newer : forall other, other ∈ processedBatches source store.files ->
      other.batchAt < batch.batchAt) :
    Extends (processedSilver source store.files) (source.silverRows batch.batchId) := by
  have known := landed batch inFlight.landed
  refine ⟨distinctRows_inFlight landed inFlight, source.distinctCustomers batch known, ?_⟩
  intro earlier earlierMember row rowMember
  obtain ⟨other, processed, _, _, earlierAt⟩ := mem_rowsOfBatches source
    (fun other member => (mem_processedBatches source |>.mp member).1) earlierMember
  rw [earlierAt, (source.ofBatch batch known row rowMember).2]
  exact newer other processed

omit [DecidableEq Digest] in
/-- The batch in flight is the one that the reservation names. -/
theorem InFlight.unique
    {other : CommerceBatch}
    (landed : forall batch, batch ∈ store.landed -> batch ∈ source.batches)
    (inFlight : InFlight store batch)
    (otherInFlight : InFlight store other) :
    batch = other := by
  have sameFile := inFlight.active.symm.trans otherInFlight.active
  rw [StateFile.document.injEq] at sameFile
  exact batch_eq_of_batchId source (landed batch inFlight.landed)
    (landed other otherInFlight.landed) (congrArg BatchEntry.batchId sameFile)

end InFlight

end SnapshotHistory
end Pipeline
end LakehouseOps
