import LakehouseOps.Ingestion.CommerceBatches

/-!
# What the planner operations establish

One rule for each operation of the planner. A rule lists everything a returning
call has checked and everything it changes, so that no later proof unfolds the
operation itself.
-/

namespace LakehouseOps
namespace Ingestion

open Library.Fallible

/-! ## The listing -/

@[simp] theorem mem_discover
    {landed : List CommerceBatch}
    {batch : CommerceBatch} :
    batch ∈ discover landed ↔ batch ∈ landed :=
  (List.perm_insertionSort _ landed).mem_iff

/-- The listing is sorted by source instant and then by batch id. -/
theorem discover_sorted (landed : List CommerceBatch) :
    (discover landed).Pairwise fun left right =>
      left.queueKey ≤ right.queueKey := by
  have total : Std.Total fun left right : CommerceBatch =>
      left.queueKey ≤ right.queueKey :=
    ⟨fun left right => le_total left.queueKey right.queueKey⟩
  have transitive : IsTrans CommerceBatch fun left right =>
      left.queueKey ≤ right.queueKey :=
    ⟨fun _ _ _ => le_trans⟩
  exact List.pairwise_insertionSort _ landed

theorem mem_of_batchesById
    {ordered : List CommerceBatch}
    {batchId : String}
    {batch : CommerceBatch}
    (found : batchesById ordered batchId = some batch) :
    batch ∈ ordered ∧ batch.batchId = batchId := by
  have member := List.mem_of_getLast? found
  simpa using member

/-- Where the listed batch ids are distinct, each batch is found by its id. -/
theorem batchesById_of_mem
    {ordered : List CommerceBatch}
    (distinct : (ordered.map CommerceBatch.batchId).Nodup)
    {batch : CommerceBatch}
    (present : batch ∈ ordered) :
    batchesById ordered batch.batchId = some batch := by
  have found : (batchesById ordered batch.batchId).isSome := by
    rw [batchesById, List.getLast?_isSome]
    apply List.ne_nil_of_mem (a := batch)
    simp [present]
  obtain ⟨other, otherFound⟩ := Option.isSome_iff_exists.mp found
  obtain ⟨otherPresent, sameId⟩ := mem_of_batchesById otherFound
  rw [otherFound, List.inj_on_of_nodup_map distinct otherPresent present sameId]

/-- The first pending batch of a sorted listing is the earliest one. -/
theorem head_pendingBatches
    {state : Checkpoint}
    {landed : List CommerceBatch}
    {first : CommerceBatch}
    (head : (pendingBatches state (discover landed)).head? = some first) :
    first ∈ landed ∧ state.processed first.batchId = none ∧
      forall other, other ∈ landed -> state.processed other.batchId = none ->
        first.queueKey ≤ other.queueKey := by
  obtain ⟨rest, shape⟩ := List.head?_eq_some_iff.mp head
  have firstPending : first ∈ pendingBatches state (discover landed) := by
    simp [shape]
  simp only [pendingBatches, List.mem_filter, mem_discover,
    Option.isNone_iff_eq_none] at firstPending
  refine ⟨firstPending.1, firstPending.2, ?_⟩
  intro other landedOther pendingOther
  have otherPending : other ∈ pendingBatches state (discover landed) := by
    simp [pendingBatches, landedOther, pendingOther]
  have sorted : (pendingBatches state (discover landed)).Pairwise
      fun left right => left.queueKey ≤ right.queueKey :=
    (discover_sorted landed).filter _
  rw [shape] at otherPending sorted
  rcases List.mem_cons.mp otherPending with equal | later
  · exact equal ▸ le_refl _
  · exact (List.pairwise_cons.mp sorted).1 other later

/-! ## The state files -/

/-- The processed records agree with their commit markers. -/
theorem verifyProcessedContent_eq_ok_iff
    {state : Checkpoint}
    {batches : String -> Option CommerceBatch} :
    verifyProcessedContent state batches = .ok () ↔
      forall batchId details, state.processed batchId = some details ->
        Exists fun batch => batches batchId = some batch ∧
          details.manifestSha256 = batch.manifestSha256 ∧
          details.batchAt = batch.batchAt := by
  have entryRule : forall batchId details,
      verifyProcessedBatch batches batchId details = .ok () ↔
        Exists fun batch => batches batchId = some batch ∧
          details.manifestSha256 = batch.manifestSha256 ∧
          details.batchAt = batch.batchAt := by
    intro batchId details
    unfold verifyProcessedBatch
    cases batches batchId with
    | none => simp
    | some batch => simp [bind_eq_ok_iff]
  unfold verifyProcessedContent
  rw [forM_eq_ok_iff]
  constructor
  · intro every batchId details recorded
    have member := AList.mem_lookup_iff.mp (Option.mem_def.mpr recorded)
    exact (entryRule batchId details).mp (every ⟨batchId, details⟩ member)
  · rintro every ⟨batchId, details⟩ member
    have recorded := Option.mem_def.mp (AList.mem_lookup_iff.mpr member)
    exact (entryRule batchId details).mpr (every batchId details recorded)

/-- An active batch is the recorded one, and it is still unfinished. -/
theorem activeBatch_eq_some
    {active : StateFile BatchEntry}
    {state : Checkpoint}
    {batches : String -> Option CommerceBatch}
    {batch : CommerceBatch}
    (found : activeBatch active state batches = .ok (some batch)) :
    active = .document batch.asDict ∧
      batches batch.batchId = some batch ∧
      state.processed batch.batchId = none := by
  cases active with
  | missing => simp [activeBatch] at found
  | unreadable reason => simp [activeBatch] at found
  | unsupported => simp [activeBatch] at found
  | document recorded =>
      simp only [activeBatch] at found
      cases listed : batches recorded.batchId with
      | none => simp [listed] at found
      | some other =>
          simp only [listed, bind_eq_ok_iff, reject_eq_ok_iff, not_not] at found
          obtain ⟨-, rfl, chosen⟩ := found
          by_cases done : (state.processed other.batchId).isSome
          · simp [done, pure, Except.pure] at chosen
          · simp only [done, pure, Except.pure, Except.ok.injEq] at chosen
            obtain rfl : other = batch := by simpa using chosen
            exact ⟨rfl, listed, by simpa using done⟩

/-- Without an active batch there is no reservation, or a finished one. -/
theorem activeBatch_eq_none
    {active : StateFile BatchEntry}
    {state : Checkpoint}
    {batches : String -> Option CommerceBatch}
    (absent : activeBatch active state batches = .ok none) :
    active = .missing ∨ Exists fun recorded =>
      active = .document recorded ∧
        (state.processed recorded.batchId).isSome := by
  cases active with
  | missing => exact Or.inl rfl
  | unreadable reason => simp [activeBatch] at absent
  | unsupported => simp [activeBatch] at absent
  | document recorded =>
      simp only [activeBatch] at absent
      cases listed : batches recorded.batchId with
      | none => simp [listed] at absent
      | some other =>
          simp only [listed, bind_eq_ok_iff, reject_eq_ok_iff, not_not] at absent
          obtain ⟨-, rfl, chosen⟩ := absent
          by_cases done : (state.processed other.batchId).isSome
          · exact Or.inr ⟨other.asDict, rfl, done⟩
          · simp [done, pure, Except.pure] at chosen

/-! ## Begin and commit -/

theorem selectedBatch_eq_ok
    {ordered : List CommerceBatch}
    {selected : BatchEntry}
    {batch : CommerceBatch}
    (found : selectedBatch ordered selected = .ok batch) :
    batchesById ordered selected.batchId = some batch ∧
      batch.manifestSha256 = selected.manifestSha256 := by
  unfold selectedBatch at found
  cases listed : batchesById ordered selected.batchId with
  | none => simp [listed] at found
  | some other =>
      simp only [listed, bind_eq_ok_iff, reject_eq_ok_iff, not_not] at found
      obtain ⟨-, unchanged, chosen⟩ := found
      obtain rfl : other = batch := by simpa [pure, Except.pure] using chosen
      exact ⟨rfl, unchanged⟩

/-- A reservation that returns has kept the active batch, or reserved the
earliest pending batch when none was active. -/
theorem begin_cases
    {files result : PlannerFiles}
    {ordered : List CommerceBatch}
    {selected : BatchEntry}
    (returned : begin files ordered selected = .ok result) :
    Exists fun state => Exists fun active => Exists fun batch =>
      loadState files.checkpoint = .ok state ∧
      verifyProcessedContent state (batchesById ordered) = .ok () ∧
      activeBatch files.active state (batchesById ordered) = .ok active ∧
      batchesById ordered selected.batchId = some batch ∧
      batch.manifestSha256 = selected.manifestSha256 ∧
      ((active = some batch ∧ result = files) ∨
        (active = none ∧
          (pendingBatches state ordered).head? = some batch ∧
          result = { files with active := .document batch.asDict })) := by
  unfold begin at returned
  simp only [bind_eq_ok_iff] at returned
  obtain ⟨state, loaded, ⟨⟩, verified, active, activeFound, batch, batchFound,
    reserved⟩ := returned
  obtain ⟨listed, unchanged⟩ := selectedBatch_eq_ok batchFound
  refine ⟨state, active, batch, loaded, verified, activeFound, listed,
    unchanged, ?_⟩
  cases head : (pendingBatches state ordered).head? with
  | none => simp [head] at reserved
  | some first =>
      simp only [head, bind_eq_ok_iff, reject_eq_ok_iff, not_not] at reserved
      obtain ⟨-, rfl, written⟩ := reserved
      cases active with
      | none =>
          right
          simp only [Option.isNone_none, if_true, pure, Except.pure,
            Except.ok.injEq] at written
          exact ⟨rfl, rfl, written.symm⟩
      | some owner =>
          left
          simp only [Option.isNone_some, Bool.false_eq_true, if_false, pure,
            Except.pure, Except.ok.injEq] at written
          exact ⟨rfl, written.symm⟩

/-- The options of a declared full snapshot: forward exactly when no processed
batch has a later instant. -/
theorem executionOptions_cases
    {files : PlannerFiles}
    {ordered : List CommerceBatch}
    {selected : BatchEntry}
    {options : Option CustomerHistoryMode}
    (returned : executionOptions files ordered selected = .ok options) :
    Exists fun state => Exists fun batch =>
      loadState files.checkpoint = .ok state ∧
      verifyProcessedContent state (batchesById ordered) = .ok () ∧
      batchesById ordered selected.batchId = some batch ∧
      (batch.sourceSemantics = some "full_snapshot" ->
        (options = some .rebuild ∧
            Exists fun batchId => Exists fun details =>
              state.processed batchId = some details ∧
                batch.batchAt < details.batchAt) ∨
          (options = some .forward ∧
            forall batchId details, state.processed batchId = some details ->
              details.batchAt ≤ batch.batchAt)) := by
  unfold executionOptions at returned
  simp only [bind_eq_ok_iff] at returned
  obtain ⟨state, loaded, ⟨⟩, verified, batch, batchFound, chosen⟩ := returned
  refine ⟨state, batch, loaded, verified, (selectedBatch_eq_ok batchFound).1, ?_⟩
  intro fullSnapshot
  simp only [fullSnapshot, ne_eq, not_true_eq_false, if_false, pure, Except.pure,
    Except.ok.injEq] at chosen
  cases latest : (state.processedBatches.entries.map fun entry =>
      entry.2.batchAt).max? with
  | none =>
      right
      simp only [latest, Option.getD_none, lt_self_iff_false, if_false] at chosen
      refine ⟨chosen.symm, ?_⟩
      intro batchId details recorded
      have member := AList.mem_lookup_iff.mp (Option.mem_def.mpr recorded)
      rw [List.max?_eq_none_iff, List.map_eq_nil_iff] at latest
      rw [latest] at member
      exact absurd member List.not_mem_nil
  | some instant =>
      obtain ⟨attained, isMax⟩ := List.max?_eq_some_iff.mp latest
      simp only [latest, Option.getD_some] at chosen
      by_cases late : batch.batchAt < instant
      · left
        obtain ⟨⟨batchId, details⟩, member, rfl⟩ := List.mem_map.mp attained
        rw [if_pos late] at chosen
        exact ⟨chosen.symm, batchId, details,
          Option.mem_def.mp (AList.mem_lookup_iff.mpr member), late⟩
      · right
        rw [if_neg late] at chosen
        refine ⟨chosen.symm, ?_⟩
        intro batchId details recorded
        have member := AList.mem_lookup_iff.mp (Option.mem_def.mpr recorded)
        exact (isMax _ (List.mem_map_of_mem member)).trans (not_lt.mp late)

/-- A commit that advances the checkpoint adds one record, of the active batch
or, when none is active, of the first pending one. -/
theorem commitDecision_advance
    {files : PlannerFiles}
    {ordered : List CommerceBatch}
    {batchId : String}
    {expectedManifestSha256 : Option String}
    {checkpoint : Checkpoint}
    {reserved : Bool}
    (advances : commitDecision files ordered batchId expectedManifestSha256 =
      .ok (.advance checkpoint reserved)) :
    Exists fun state => Exists fun active => Exists fun batch =>
      loadState files.checkpoint = .ok state ∧
      verifyProcessedContent state (batchesById ordered) = .ok () ∧
      activeBatch files.active state (batchesById ordered) = .ok active ∧
      batchesById ordered batchId = some batch ∧
      (forall expected, expectedManifestSha256 = some expected ->
        batch.manifestSha256 = expected) ∧
      state.processed batchId = none ∧
      checkpoint = state.record batchId
        { batchAt := batch.batchAt, manifestSha256 := batch.manifestSha256 } ∧
      reserved = active.isSome ∧
      Exists fun nextBatch => nextBatch.batchId = batchId ∧
        (active = some nextBatch ∨
          (active = none ∧
            (pendingBatches state ordered).head? = some nextBatch)) := by
  unfold commitDecision at advances
  cases listed : batchesById ordered batchId with
  | none => simp [listed] at advances
  | some batch =>
      simp only [listed, bind_eq_ok_iff, reject_eq_ok_iff] at advances
      obtain ⟨state, loaded, ⟨⟩, verified, ⟨⟩, unchanged, active, activeFound,
        decided⟩ := advances
      refine ⟨state, active, batch, loaded, verified, activeFound, rfl, ?_⟩
      by_cases done : (state.processed batchId).isSome
      · simp [done] at decided
      · rw [if_neg done] at decided
        cases next : active.or (pendingBatches state ordered).head? with
        | none => simp [next] at decided
        | some nextBatch =>
            simp only [next, bind_eq_ok_iff, reject_eq_ok_iff, not_not, pure,
              Except.pure, Except.ok.injEq,
              CommitDecision.advance.injEq] at decided
            obtain ⟨-, sameId, recorded, rfl⟩ := decided
            refine ⟨?_, by simpa using done, recorded.symm, rfl, nextBatch,
              sameId, ?_⟩
            · rintro expected rfl
              simpa using unchanged
            · cases active with
              | none => exact Or.inr ⟨rfl, by simpa using next⟩
              | some owner => exact Or.inl (by simpa using next)

end Ingestion
end LakehouseOps
