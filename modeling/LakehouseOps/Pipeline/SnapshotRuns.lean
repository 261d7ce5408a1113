import LakehouseOps.Pipeline.SnapshotHistory

/-!
# Every commit leaves the reference history

Each step of the runner keeps the tables consistent with the planner files: they
hold the processed batches, and possibly parts of the one batch in flight. The
checkpoint advances only after the history of that batch has been published, so
every commit finds the reference history of the batches it records.
-/

namespace LakehouseOps
namespace Pipeline
namespace SnapshotHistory

open Ingestion Library Library.Table
open Spark.CustomerScd2

variable {Digest : Type} {digests : HistoryDigests Digest} {source : SnapshotSource}
variable {store : Store Digest} {batch : CommerceBatch}

/-! ## Frames -/

/-- The records depend on the checkpoint file alone. -/
theorem processed_congr
    {left right : PlannerFiles}
    (same : left.checkpoint = right.checkpoint) :
    left.processed = right.processed := by
  unfold PlannerFiles.processed
  rw [same]

theorem processedBatches_congr
    {left right : PlannerFiles}
    (same : left.checkpoint = right.checkpoint) :
    processedBatches source left = processedBatches source right := by
  unfold processedBatches
  rw [processed_congr same]

theorem processedSilver_congr
    {left right : PlannerFiles}
    (same : left.checkpoint = right.checkpoint) :
    processedSilver source left = processedSilver source right := by
  unfold processedSilver
  rw [processedBatches_congr same]

theorem InFlight.land
    {other : CommerceBatch}
    (inFlight : InFlight store batch) :
    InFlight { store with landed := other :: store.landed } batch :=
  ⟨List.mem_cons_of_mem other inFlight.landed, inFlight.active, inFlight.pending⟩

/-- A reservation in flight is what the planner finds active. -/
theorem InFlight.activeBatch_eq
    (inFlight : InFlight store batch)
    {checkpoint : Checkpoint}
    (loaded : loadState store.files.checkpoint = .ok checkpoint)
    {active : Option CommerceBatch}
    (found : activeBatch store.files.active checkpoint
      (batchesById (discover store.landed)) = .ok active) :
    Exists fun reserved => active = some reserved ∧ reserved.batchId = batch.batchId := by
  cases active with
  | some reserved =>
      obtain ⟨file, _, _⟩ := activeBatch_eq_some found
      rw [inFlight.active, StateFile.document.injEq] at file
      exact ⟨reserved, rfl, (congrArg BatchEntry.batchId file).symm⟩
  | none =>
      rcases activeBatch_eq_none found with missing | ⟨recorded, file, done⟩
      · rw [inFlight.active] at missing
        contradiction
      · rw [inFlight.active, StateFile.document.injEq] at file
        rw [← file, CommerceBatch.asDict_batchId,
          ← PlannerFiles.processed_eq loaded, inFlight.pending] at done
        contradiction

/-! ## Planner steps -/

/-- A reservation that returns leaves its batch in flight. Either the files stay
as they are, or no batch was in flight before. -/
theorem begin_inFlight
    {selected : BatchEntry}
    {files : PlannerFiles}
    (returned : Ingestion.begin store.files (discover store.landed) selected = .ok files) :
    files.checkpoint = store.files.checkpoint ∧
      (Exists fun batch => InFlight { store with files := files } batch ∧
        batch.batchId = selected.batchId) ∧
      (files = store.files ∨ forall other, ¬InFlight store other) := by
  obtain ⟨checkpoint, active, batch, loaded, _, activeFound, listed, _, reserved⟩ :=
    begin_cases returned
  obtain ⟨landed, sameId⟩ := mem_of_batchesById listed
  rcases reserved with ⟨rfl, rfl⟩ | ⟨rfl, head, rfl⟩
  · obtain ⟨file, _, pending⟩ := activeBatch_eq_some activeFound
    exact ⟨rfl, ⟨batch, ⟨mem_discover.mp landed, file,
      (PlannerFiles.processed_eq loaded _).trans pending⟩, sameId⟩, Or.inl rfl⟩
  · obtain ⟨inLanding, pending, _⟩ := head_pendingBatches head
    refine ⟨rfl, ⟨batch, ⟨inLanding, rfl, ?_⟩, sameId⟩, Or.inr ?_⟩
    · exact (PlannerFiles.processed_eq loaded _).trans pending
    · intro other inFlight
      obtain ⟨_, none, _⟩ := inFlight.activeBatch_eq loaded activeFound
      contradiction

/-- Forward mode is chosen only for a batch that is newer than every processed
one. -/
theorem executionOptions_newest
    (landed : forall batch, batch ∈ store.landed -> batch ∈ source.batches)
    (inFlight : InFlight store batch)
    {selected : BatchEntry}
    (sameId : batch.batchId = selected.batchId)
    {options : Option CustomerHistoryMode}
    (returned : executionOptions store.files (discover store.landed) selected =
      .ok options)
    (forward : options.getD .forward = .forward)
    {other : CommerceBatch}
    (processed : other ∈ processedBatches source store.files) :
    other.batchAt < batch.batchAt := by
  obtain ⟨checkpoint, chosen, loaded, verified, listed, mode⟩ :=
    executionOptions_cases returned
  have batchKnown := landed batch inFlight.landed
  obtain ⟨chosenLanded, chosenId⟩ := mem_of_batchesById listed
  have isBatch : chosen = batch := batch_eq_of_batchId source
    (landed chosen (mem_discover.mp chosenLanded)) batchKnown
    (chosenId.trans sameId.symm)
  subst isBatch
  obtain ⟨otherKnown, otherRecorded⟩ := (mem_processedBatches source).mp processed
  obtain ⟨details, recorded⟩ := Option.isSome_iff_exists.mp otherRecorded
  rw [PlannerFiles.processed_eq loaded] at recorded
  have recordedAt : details.batchAt = other.batchAt := by
    obtain ⟨entry, entryListed, _, entryAt⟩ :=
      verifyProcessedContent_eq_ok_iff.mp verified other.batchId details recorded
    obtain ⟨entryLanded, entryId⟩ := mem_of_batchesById entryListed
    rw [entryAt, batch_eq_of_batchId source
      (landed entry (mem_discover.mp entryLanded)) otherKnown entryId]
  rcases mode (source.fullSnapshot chosen batchKnown) with
    ⟨rebuild, _⟩ | ⟨_, noLater⟩
  · rw [rebuild] at forward
    contradiction
  · have notLater := noLater other.batchId details recorded
    rw [recordedAt] at notLater
    refine lt_of_le_of_ne notLater ?_
    intro sameAt
    have same := batch_eq_of_batchAt source otherKnown batchKnown sameAt
    rw [same, inFlight.pending] at otherRecorded
    contradiction

/-- The record of the batch in flight adds its rows to the processed ones. -/
theorem processedSilver_replace
    (landed : forall batch, batch ∈ store.landed -> batch ∈ source.batches)
    (inFlight : InFlight store batch)
    {checkpoint : Checkpoint}
    (loaded : loadState store.files.checkpoint = .ok checkpoint)
    (details : ProcessedBatch) :
    (processedSilver source store.files ++ source.silverRows batch.batchId).Perm
      (processedSilver source
        (store.files.replaceCheckpoint (checkpoint.record batch.batchId details))) := by
  obtain ⟨known, distinct⟩ := nodup_processed_append landed inFlight
  have records : forall batchId,
      (store.files.replaceCheckpoint (checkpoint.record batch.batchId details)).processed
        batchId =
        if batchId = batch.batchId then some details
        else store.files.processed batchId := by
    intro batchId
    rw [PlannerFiles.processed_eq loaded]
    by_cases same : batchId = batch.batchId
    · subst same
      simp [PlannerFiles.processed, PlannerFiles.replaceCheckpoint, loadState]
    · rw [if_neg same, ← Checkpoint.processed_record_other checkpoint details same]
      rfl
  have batches : (processedBatches source store.files ++ [batch]).Perm
      (processedBatches source
        (store.files.replaceCheckpoint (checkpoint.record batch.batchId details))) := by
    apply (List.perm_ext_iff_of_nodup distinct (nodup_processedBatches source _)).mpr
    intro other
    rw [List.mem_append, mem_processedBatches, mem_processedBatches, records,
      List.mem_singleton]
    by_cases same : other.batchId = batch.batchId
    · rw [if_pos same, same, inFlight.pending]
      have iff : other ∈ source.batches ↔ other = batch := by
        constructor
        · intro otherKnown
          exact batch_eq_of_batchId source otherKnown (landed batch inFlight.landed) same
        · rintro rfl
          exact landed other inFlight.landed
      simp [iff]
    · rw [if_neg same]
      have different : other ≠ batch := fun equal => same (equal ▸ rfl)
      simp [different]
  have rows := batches.flatMap_right fun batch => source.silverRows batch.batchId
  rw [List.flatMap_append] at rows
  simpa [processedSilver, rowsOfBatches] using rows

/-! ## Table steps -/

/-- After the silver stage the rows of the batch are in the silver table once. -/
theorem refined_of_content
    (landed : forall batch, batch ∈ store.landed -> batch ∈ source.batches)
    (content : Content digests source store)
    (inFlight : InFlight store batch) :
    (mergeInsert sameSilverKey store.silver (source.silverRows batch.batchId)).Perm
      (processedSilver source store.files ++ source.silverRows batch.batchId) := by
  have batchRow := source.ofBatch batch (landed batch inFlight.landed)
  rcases content with ⟨silver, _⟩ | ⟨other, otherInFlight, silver, _⟩
  · rw [mergeInsert_of_absent]
    · exact silver.append_right _
    · intro row member existing existingMember
      obtain ⟨earlier, processed, _, earlierId, _⟩ := mem_rowsOfBatches source
        (fun other member => ((mem_processedBatches source).mp member).1)
        (silver.mem_iff.mp existingMember)
      have different : earlier.batchId ≠ batch.batchId := by
        intro same
        have recorded := ((mem_processedBatches source).mp processed).2
        rw [same, inFlight.pending] at recorded
        contradiction
      simp [sameSilverKey, earlierId, (batchRow row member).1, different]
  · rw [otherInFlight.unique landed inFlight] at silver
    rw [mergeInsert_of_present]
    · exact silver
    · intro row member
      refine ⟨row, silver.mem_iff.mpr (List.mem_append_right _ member), ?_⟩
      simp [sameSilverKey, (batchRow row member).1]

/-- The history stage reaches the history of the batch in flight or fails and
leaves the table alone. -/
theorem publish_reaches
    [DecidableEq Digest]
    (distinguishes : Distinguishes digests (rowsOfBatches source source.batches))
    (landed : forall batch, batch ∈ store.landed -> batch ∈ source.batches)
    (inFlight : InFlight store batch)
    (refined : Refined source store batch)
    (history : Current digests source store ∨ Ahead digests source store batch)
    (mode : CustomerHistoryMode)
    (newest : mode = .forward -> forall other,
      other ∈ processedBatches source store.files -> other.batchAt < batch.batchAt) :
    Reaches digests
      (processedSilver source store.files ++ source.silverRows batch.batchId)
      store.history (main digests mode store.silver batch.batchId store.history) := by
  have batchKnown := landed batch inFlight.landed
  have processedKnown : forall other, other ∈ processedBatches source store.files ->
      other ∈ source.batches := fun other member =>
    ((mem_processedBatches source).mp member).1
  apply main_reaches digests refined
  · intro row member sameId
    obtain ⟨earlier, processed, _, earlierId, _⟩ :=
      mem_rowsOfBatches source processedKnown member
    have recorded := ((mem_processedBatches source).mp processed).2
    rw [earlierId, Option.some.injEq] at sameId
    rw [sameId, inFlight.pending] at recorded
    contradiction
  · exact fun row member => (source.ofBatch batch batchKnown row member).1
  · exact distinctRows_inFlight landed inFlight
  · apply distinguishes.mono
    intro row member
    rcases List.mem_append.mp member with earlier | new
    · obtain ⟨other, processed, inOther, _, _⟩ :=
        mem_rowsOfBatches source processedKnown earlier
      exact List.mem_flatMap.mpr ⟨other, processedKnown other processed, inOther⟩
    · exact List.mem_flatMap.mpr ⟨batch, batchKnown, new⟩
  · exact history
  · exact fun forward => extends_inFlight landed inFlight (newest forward)

/-! ## Steps -/

section Steps

variable {state : State Digest}

/-- The runner may stop anywhere. -/
theorem consistent_idle
    (consistent : Consistent digests source state) :
    Consistent digests source { state with runner := .idle } :=
  ⟨consistent.landed, consistent.content, trivial⟩

theorem consistent_land
    (consistent : Consistent digests source state)
    (other : CommerceBatch) :
    Consistent digests source { state with store := land source state.store other } := by
  unfold land
  split
  · rename_i fresh
    refine ⟨?_, ?_, ?_⟩
    · intro batch member
      rcases List.mem_cons.mp member with rfl | earlier
      · exact fresh.1
      · exact consistent.landed batch earlier
    · rcases consistent.content with settled | ⟨batch, inFlight, refined⟩
      · exact Or.inl settled
      · exact Or.inr ⟨batch, inFlight.land, refined⟩
    · have progress := consistent.progress
      cases runner : state.runner with
      | idle => trivial
      | planned selected => trivial
      | reserved selected =>
          rw [runner] at progress
          obtain ⟨batch, inFlight, rest⟩ := progress
          exact ⟨batch, inFlight.land, rest⟩
      | resolved selected mode =>
          rw [runner] at progress
          obtain ⟨batch, inFlight, rest⟩ := progress
          exact ⟨batch, inFlight.land, rest⟩
      | refined selected mode =>
          rw [runner] at progress
          obtain ⟨batch, inFlight, rest⟩ := progress
          exact ⟨batch, inFlight.land, rest⟩
      | published selected =>
          rw [runner] at progress
          obtain ⟨batch, inFlight, rest⟩ := progress
          exact ⟨batch, inFlight.land, rest⟩
      | replaced reserved =>
          rw [runner] at progress
          exact progress
  · exact consistent

theorem consistent_plan
    (consistent : Consistent digests source state) :
    Consistent digests source (plan state) := by
  unfold plan
  split
  · split
    · exact consistent
    · split
      · exact consistent
      · exact ⟨consistent.landed, consistent.content, trivial⟩
  · exact consistent

theorem consistent_begin
    (consistent : Consistent digests source state) :
    Consistent digests source (begin state) := by
  unfold begin
  split
  · rename_i selected runner
    split
    · exact consistent_idle consistent
    · rename_i files returned
      obtain ⟨sameCheckpoint, reserved, undisturbed⟩ := begin_inFlight returned
      refine ⟨consistent.landed, ?_, reserved⟩
      rcases undisturbed with rfl | noneInFlight
      · exact consistent.content
      · rcases consistent.content with ⟨silver, current⟩ | ⟨other, inFlight, _⟩
        · left
          rw [Current] at current ⊢
          rw [processedSilver_congr sameCheckpoint]
          exact ⟨silver, current⟩
        · exact absurd inFlight (noneInFlight other)
  · exact consistent

theorem consistent_resolve
    (consistent : Consistent digests source state) :
    Consistent digests source (resolve state) := by
  unfold resolve
  split
  · rename_i selected runner
    split
    · exact consistent_idle consistent
    · rename_i options returned
      have progress := consistent.progress
      rw [runner] at progress
      obtain ⟨batch, inFlight, sameId⟩ := progress
      refine ⟨consistent.landed, consistent.content, batch, inFlight, sameId, ?_⟩
      intro forward other processed
      exact executionOptions_newest consistent.landed inFlight sameId returned forward
        processed
  · exact consistent

theorem consistent_refine
    (consistent : Consistent digests source state) :
    Consistent digests source (refine source state) := by
  unfold refine
  split
  · rename_i selected mode runner
    have progress := consistent.progress
    rw [runner] at progress
    obtain ⟨batch, inFlight, sameId, newest⟩ := progress
    have refined := refined_of_content consistent.landed consistent.content inFlight
    rw [sameId] at refined
    have history : Current digests source state.store ∨
        Ahead digests source state.store batch := by
      rcases consistent.content with ⟨_, current⟩ | ⟨other, otherInFlight, _, history⟩
      · exact Or.inl current
      · exact otherInFlight.unique consistent.landed inFlight ▸ history
    have inFlightNext : InFlight
        { state.store with
          silver := mergeInsert sameSilverKey state.store.silver
            (source.silverRows selected.batchId) } batch :=
      ⟨inFlight.landed, inFlight.active, inFlight.pending⟩
    have refinedNext : Refined source
        { state.store with
          silver := mergeInsert sameSilverKey state.store.silver
            (source.silverRows selected.batchId) } batch := by
      rw [Refined, sameId]
      exact refined
    exact ⟨consistent.landed, Or.inr ⟨batch, inFlightNext, refinedNext, history⟩,
      batch, inFlightNext, sameId, newest, refinedNext⟩
  · exact consistent

theorem consistent_publish
    [DecidableEq Digest]
    (distinguishes : Distinguishes digests (rowsOfBatches source source.batches))
    (consistent : Consistent digests source state) :
    Consistent digests source (publish digests state) := by
  unfold publish
  split
  · rename_i selected mode runner
    have progress := consistent.progress
    rw [runner] at progress
    obtain ⟨batch, inFlight, sameId, newest, refined⟩ := progress
    have history : Current digests source state.store ∨
        Ahead digests source state.store batch := by
      rcases consistent.content with ⟨_, current⟩ | ⟨other, otherInFlight, _, history⟩
      · exact Or.inl current
      · exact otherInFlight.unique consistent.landed inFlight ▸ history
    have reaches := publish_reaches distinguishes consistent.landed inFlight refined
      history mode newest
    rw [sameId] at reaches
    have inFlightNext : InFlight
        { state.store with
          history := (main digests mode state.store.silver selected.batchId
            state.store.history).state } batch :=
      ⟨inFlight.landed, inFlight.active, inFlight.pending⟩
    rcases reaches with ⟨⟨report, ok⟩, ahead⟩ | ⟨⟨problem, failed⟩, unchanged⟩
    · have aheadNext : Ahead digests source
          { state.store with
            history := (main digests mode state.store.silver selected.batchId
              state.store.history).state } batch := by
        rw [Ahead, sameId]
        exact ahead
      dsimp only
      rw [ok]
      exact ⟨consistent.landed,
        Or.inr ⟨batch, inFlightNext, refined, Or.inr aheadNext⟩,
        batch, inFlightNext, sameId, refined, aheadNext⟩
    · dsimp only
      rw [failed, unchanged]
      exact consistent_idle consistent
  · exact consistent

theorem consistent_replace
    (consistent : Consistent digests source state)
    (withinBudget : Bool) :
    Consistent digests source (replace state withinBudget) := by
  unfold replace
  split
  · rename_i selected runner
    have progress := consistent.progress
    rw [runner] at progress
    obtain ⟨batch, inFlight, sameId, refined, ahead⟩ := progress
    split
    · rename_i advanced reserved decided
      obtain ⟨checkpoint, active, recorded, loaded, _, _, _, _, _, rfl, _, _⟩ :=
        commitDecision_advance decided
      split
      · rw [← sameId]
        have rows := processedSilver_replace consistent.landed inFlight loaded
          { batchAt := recorded.batchAt, manifestSha256 := recorded.manifestSha256 }
        have silver := refined.trans rows
        have current := ahead.trans (referenceHistory_perm digests
          (distinctRows_inFlight consistent.landed inFlight) rows)
        exact ⟨consistent.landed, Or.inl ⟨silver, current⟩, silver, current⟩
      · exact consistent_idle consistent
    · exact consistent_idle consistent
  · exact consistent

theorem consistent_unlink
    (consistent : Consistent digests source state) :
    Consistent digests source (unlink state) := by
  unfold unlink
  split
  · rename_i reserved runner
    have progress := consistent.progress
    rw [runner] at progress
    obtain ⟨silver, current⟩ := progress
    have sameCheckpoint : (if reserved then state.store.files.unlinkActive
        else state.store.files).checkpoint = state.store.files.checkpoint := by
      cases reserved <;> rfl
    refine ⟨consistent.landed, Or.inl ?_, trivial⟩
    rw [Current] at current ⊢
    rw [processedSilver_congr sameCheckpoint]
    exact ⟨silver, current⟩
  · exact consistent

end Steps

/-! ## Runs -/

variable [DecidableEq Digest]

theorem pipeline_preserves_consistent
    (distinguishes : Distinguishes digests (rowsOfBatches source source.batches)) :
    (pipeline digests source).Preserves (Consistent digests source) := by
  intro state event consistent
  cases event with
  | land batch => exact consistent_land consistent batch
  | plan => exact consistent_plan consistent
  | begin => exact consistent_begin consistent
  | resolve => exact consistent_resolve consistent
  | refine => exact consistent_refine consistent
  | publish => exact consistent_publish distinguishes consistent
  | replace withinBudget => exact consistent_replace consistent withinBudget
  | unlink => exact consistent_unlink consistent
  | crash => exact consistent_idle consistent

theorem consistent_run
    (distinguishes : Distinguishes digests (rowsOfBatches source source.batches))
    (events : List Event) :
    Consistent digests source ((pipeline digests source).run events) := by
  apply (pipeline_preserves_consistent distinguishes).run
  have nothing : processedSilver source (pipeline digests source).initial.store.files = [] := by
    simp [processedSilver, rowsOfBatches, processedBatches, PlannerFiles.processed,
      loadState, pipeline]
  refine ⟨fun _ member => absurd member List.not_mem_nil, Or.inl ⟨?_, ?_⟩, trivial⟩
  · rw [nothing]
    exact List.Perm.refl []
  · rw [Current, nothing]
    exact List.Perm.refl []

/-- An event that adds a batch to the checkpoint. -/
def Commits (before after : State Digest) : Prop :=
  Exists fun batchId => before.store.files.processed batchId = none ∧
    after.store.files.processed batchId ≠ none

/-- Only the commit of the runner replaces the checkpoint. -/
theorem step_checkpoint
    (digests : HistoryDigests Digest)
    (source : SnapshotSource)
    (state : State Digest)
    (event : Event) :
    (step digests source state event).store.files.checkpoint =
        state.store.files.checkpoint ∨
      Exists fun reserved =>
        (step digests source state event).runner = .replaced reserved := by
  cases event with
  | land batch =>
      left
      simp only [step, land]
      split <;> rfl
  | plan =>
      left
      simp only [step, plan]
      split
      · split
        · rfl
        · split <;> rfl
      · rfl
  | begin =>
      left
      simp only [step, begin]
      split
      · split
        · rfl
        · rename_i returned
          exact (begin_inFlight returned).1
      · rfl
  | resolve =>
      left
      simp only [step, resolve]
      split
      · split <;> rfl
      · rfl
  | refine =>
      left
      simp only [step, refine]
      split <;> rfl
  | publish =>
      left
      simp only [step, publish]
      split <;> rfl
  | replace withinBudget =>
      simp only [step, replace]
      split
      · split
        · split
          · exact Or.inr ⟨_, rfl⟩
          · exact Or.inl rfl
        · exact Or.inl rfl
      · exact Or.inl rfl
  | unlink =>
      left
      simp only [step, unlink]
      split
      · rename_i reserved _
        cases reserved <;> rfl
      · rfl
  | crash => exact Or.inl rfl

/-- The marker of a full-snapshot batch whose id and digest are the given text. -/
def snapshotBatch (batchId : String) (batchAt : Instant) : CommerceBatch where
  batchId := batchId
  batchAt := batchAt
  manifestSha256 := batchId
  path := batchId
  committedAt := none
  sourceSemantics := some "full_snapshot"

/-- Three snapshots of one customer, renamed with the second and again with the
third. -/
def renamings : SnapshotSource where
  batches := [snapshotBatch "a" 1, snapshotBatch "b" 2, snapshotBatch "c" 3]
  silverRows batchId :=
    if batchId = "a" then [customerRow "a" 1 "Ada"]
    else if batchId = "b" then [customerRow "b" 2 "Alice"]
    else if batchId = "c" then [customerRow "c" 3 "Ada"]
    else []
  fullSnapshot := by decide
  distinctIds := by decide
  distinctInstants := by decide
  ofBatch := by decide
  distinctCustomers := by decide

/-- The second snapshot lands late, after the history of the third has been
published and before its checkpoint; it is then rebuilt. -/
def lateSnapshot : List Event :=
  [.land (snapshotBatch "a" 1), .plan, .begin, .resolve, .refine, .publish, .replace true,
    .unlink, .land (snapshotBatch "c" 3), .plan, .begin, .resolve, .refine, .publish,
    .land (snapshotBatch "b" 2), .crash, .plan, .begin, .resolve, .refine, .publish,
    .replace true, .unlink, .plan, .begin, .resolve, .refine, .publish]

end SnapshotHistory
end Pipeline
end LakehouseOps
