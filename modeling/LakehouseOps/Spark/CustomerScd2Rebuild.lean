import LakehouseOps.Spark.CustomerScd2Forward

/-!
# Rebuilding the history

The window functions of the rebuild compute, for each customer, the timeline of
its attribute hashes. So a rebuilt history is well formed, the checks after its
publication pass, and a second rebuild from the same source changes nothing.
-/

namespace LakehouseOps
namespace Spark
namespace CustomerScd2

open Ingestion (Instant)
open Library Library.Table Library.Timeline

variable {Digest : Type} [DecidableEq Digest] (digests : HistoryDigests Digest)

/-- The source rows of a customer in the order of their instants. -/
def observations
    (customerId : String)
    (source : List (SourceCustomer Digest)) : List (SourceCustomer Digest) :=
  orderedBy (fun row => row.validFrom) (sourceRowsOf customerId source)

/-- The versions of a customer that its observations give rise to. -/
def customerTimeline
    (customerId : String)
    (source : List (SourceCustomer Digest)) : List (HistoryRow Digest) :=
  (timeline (fun row : SourceCustomer Digest => row.attributeHash)
    (fun row => row.validFrom) (observations customerId source)).map fun version =>
      versionOf digests version.1 version.2

/-! ## The window functions -/

private theorem lagFrom_changes
    (previous : Option (SourceCustomer Digest))
    (observed : List (SourceCustomer Digest)) :
    ((lagFrom previous observed).filter fun step =>
      step.1.isNone ||
        sqlNe (step.1.map fun row => row.attributeHash)
          (some step.2.attributeHash)).map Prod.snd =
      changesFrom (fun row : SourceCustomer Digest => row.attributeHash)
        (previous.map fun row => row.attributeHash) observed := by
  induction observed generalizing previous with
  | nil => rfl
  | cons row rest inductionHypothesis =>
      have later := inductionHypothesis (some row)
      rw [lagFrom, changesFrom, List.filter_cons]
      cases previous with
      | none => simpa using later
      | some before =>
          by_cases same : before.attributeHash = row.attributeHash
          · simpa [same] using later
          · simpa [same] using later

omit [DecidableEq Digest] in
private theorem lead_periods (changed : List (SourceCustomer Digest)) :
    ((lead changed).map fun step =>
      versionOf digests step.1 (step.2.map fun row => row.validFrom)) =
      (periods (fun row : SourceCustomer Digest => row.validFrom) changed).map
        fun version => versionOf digests version.1 version.2 := by
  induction changed with
  | nil => rfl
  | cons row rest inductionHypothesis =>
      simp only [lead, periods, List.map_cons, inductionHypothesis]

/-- A source with one row for each customer and instant. -/
def DistinctInstants (source : List (SourceCustomer Digest)) : Prop :=
  forall customerId, ((sourceRowsOf customerId source).map fun row => row.validFrom).Nodup

omit [DecidableEq Digest] in
theorem observations_strict
    {source : List (SourceCustomer Digest)}
    (distinct : DistinctInstants source)
    (customerId : String) :
    (observations customerId source).Pairwise fun left right =>
      left.validFrom < right.validFrom :=
  orderedBy_strict (distinct customerId)

/-- The changes of a customer in the source. -/
theorem rowsOf_changes
    (source : List (SourceCustomer Digest))
    (customerId : String) :
    sourceRowsOf customerId (changes source) =
      Timeline.changes (fun row : SourceCustomer Digest => row.attributeHash)
        (observations customerId source) := by
  have window : forall observed : List (SourceCustomer Digest),
      ((lag observed).filter fun step =>
        step.1.isNone ||
          sqlNe (step.1.map fun row => row.attributeHash)
            (some step.2.attributeHash)).map Prod.snd =
        Timeline.changes (fun row : SourceCustomer Digest => row.attributeHash)
          observed := fun observed => lagFrom_changes none observed
  unfold changes
  simp only [window]
  apply rowsOf_windowOver
  · rfl
  · intro value part own out member
    exact own out ((changes_sublist part).mem member)

/-- The rebuilt history holds, for each customer, its timeline. -/
theorem rowsOf_rebuiltHistory
    {source : List (SourceCustomer Digest)}
    (distinct : DistinctInstants source)
    (customerId : String) :
    rowsOf HistoryRow.customerId customerId (rebuiltHistory digests source) =
      customerTimeline digests customerId source := by
  have rows : rowsOf (fun row : SourceCustomer Digest => row.customerId) customerId
      (changes source) =
        Timeline.changes (fun row : SourceCustomer Digest => row.attributeHash)
          (observations customerId source) := rowsOf_changes source customerId
  have ascending : (Timeline.changes (fun row : SourceCustomer Digest => row.attributeHash)
      (observations customerId source)).Pairwise fun left right =>
        left.validFrom < right.validFrom :=
    (observations_strict distinct customerId).sublist (changes_sublist _)
  unfold rebuiltHistory
  rw [rowsOf_windowOver]
  · rw [rows, lead_periods, orderedBy_eq_of_perm (List.Perm.refl _) ascending]
    rfl
  · rfl
  · intro value part own out member
    obtain ⟨step, stepMember, rfl⟩ := List.mem_map.mp member
    have row := List.mem_map_of_mem (f := Prod.fst) stepMember
    rw [lead_map_fst] at row
    exact own step.1 row

/-- The timeline of a customer is a chain. -/
theorem chain_customerTimeline
    {source : List (SourceCustomer Digest)}
    (distinct : DistinctInstants source)
    (customerId : String) :
    Chain (customerTimeline digests customerId source) := by
  constructor
  · apply (contiguous_map (fun _ => rfl) (fun _ => rfl)).mpr
    exact timeline_contiguous (observations_strict distinct customerId)
  · intro version member
    obtain ⟨period, _, rfl⟩ := List.mem_map.mp member
    rfl

theorem versionsOf_rebuiltHistory
    {source : List (SourceCustomer Digest)}
    (distinct : DistinctInstants source)
    (customerId : String) :
    versionsOf customerId (rebuiltHistory digests source) =
      customerTimeline digests customerId source := by
  apply versionsOf_eq_of_perm (chain_customerTimeline digests distinct customerId).contiguous
  rw [rowsOf_rebuiltHistory digests distinct]

theorem wellFormed_rebuiltHistory
    {source : List (SourceCustomer Digest)}
    (distinct : DistinctInstants source) :
    WellFormed (rebuiltHistory digests source) := by
  apply wellFormed_iff.mpr
  intro customerId
  rw [versionsOf_rebuiltHistory digests distinct]
  exact chain_customerTimeline digests distinct customerId

/-- Every rebuilt version starts with a source row of its customer. -/
theorem mem_rebuiltHistory
    {source : List (SourceCustomer Digest)}
    (distinct : DistinctInstants source)
    {version : HistoryRow Digest}
    (member : version ∈ rebuiltHistory digests source) :
    Exists fun row => row ∈ source ∧ row.customerId = version.customerId ∧
      row.validFrom = version.validFrom := by
  have own : version ∈ customerTimeline digests version.customerId source := by
    rw [← rowsOf_rebuiltHistory digests distinct]
    exact mem_rowsOf.mpr ⟨member, rfl⟩
  obtain ⟨period, periodMember, same⟩ := List.mem_map.mp own
  have changed := List.mem_map_of_mem (f := Prod.fst) periodMember
  rw [timeline, periods_map_fst] at changed
  have observed := (changes_sublist _).mem changed
  have inSource := (mem_rowsOf.mp ((orderedBy_perm _ _).mem_iff.mp observed)).1
  exact ⟨period.1, inSource, by rw [← same]; rfl, by rw [← same]; rfl⟩

/-! ## Runs -/

/-- The conditions that the checks before the publication establish. -/
structure RebuildAccepted
    (source : List (SourceCustomer Digest))
    (table : List (HistoryRow Digest)) : Prop where
  nonempty : source ≠ []
  required : source.filter missesRequired = []
  distinctInstants : (source.map fun row => (row.customerId, row.sourceBatchAt)).Nodup
  distinctBatches : (source.map fun row => (row.customerId, row.sourceBatchId)).Nodup
  covered : uncovered source table = []

omit [DecidableEq Digest] in
/-- A history starts at the instant of its silver row. -/
theorem validFrom_withHistoryColumns
    {silver : List SilverCustomer}
    {row : SourceCustomer Digest}
    (member : row ∈ withHistoryColumns digests silver) :
    row.validFrom = row.sourceBatchAt := by
  obtain ⟨customer, _, rfl⟩ := List.mem_map.mp member
  rfl

omit [DecidableEq Digest] in
theorem distinctInstants_of_nodup
    {silver : List SilverCustomer}
    (distinct : ((withHistoryColumns digests silver).map fun row =>
      (row.customerId, row.sourceBatchAt)).Nodup) :
    DistinctInstants (withHistoryColumns digests silver) := by
  intro customerId
  have part : ((sourceRowsOf customerId (withHistoryColumns digests silver)).map
      fun row => (row.customerId, row.sourceBatchAt)).Nodup :=
    distinct.sublist (List.filter_sublist.map _)
  apply List.Nodup.of_map (fun instant => (customerId, instant))
  rw [List.map_map]
  refine (List.map_congr_left ?_) ▸ part
  intro row member
  obtain ⟨inSource, own⟩ := mem_rowsOf.mp member
  simp [own, validFrom_withHistoryColumns digests inSource]

omit [DecidableEq Digest] in
theorem WellFormed.of_perm
    {left right : List (HistoryRow Digest)}
    (wellFormed : WellFormed left)
    (perm : left.Perm right) :
    WellFormed right := by
  apply wellFormed_iff.mpr
  intro customerId
  have chain := wellFormed_iff.mp wellFormed customerId
  rw [versionsOf_eq_of_perm chain.contiguous]
  · exact chain
  · exact (versionsOf_perm customerId left).trans (perm.filter _)

/-- A source covers the history rebuilt from it. -/
theorem uncovered_rebuiltHistory
    {source : List (SourceCustomer Digest)}
    (distinct : DistinctInstants source)
    {table : List (HistoryRow Digest)}
    (perm : (rebuiltHistory digests source).Perm table) :
    uncovered source table = [] := by
  apply List.filter_eq_nil_iff.mpr
  intro version member
  obtain ⟨row, inSource, own, starts⟩ :=
    mem_rebuiltHistory digests distinct (perm.mem_iff.mpr member)
  have started : row.validFrom ∈
      (sourceRowsOf version.customerId source).map fun row => row.validFrom :=
    List.mem_map.mpr ⟨row, mem_rowsOf.mpr ⟨inSource, own⟩, rfl⟩
  unfold sourceStart
  cases first : ((sourceRowsOf version.customerId source).map fun row =>
      row.validFrom).min? with
  | none =>
      rw [List.min?_eq_none_iff.mp first] at started
      exact absurd started List.not_mem_nil
  | some start =>
      have le := (List.min?_eq_some_iff.mp first).2 _ started
      simp [← starts, le]

/-- Two tables differ when one of them exceeds the other. -/
private theorem exceeds_iff
    {left right : List (HistoryRow Digest)} :
    (exceptAll left right ≠ [] ∨ exceptAll right left ≠ []) ↔ ¬left.Perm right := by
  rw [← exceptAll_both_eq_nil_iff, not_and_or]

/-- The table after a rebuild: it is replaced only when it differs. -/
def rebuiltTable (history table : List (HistoryRow Digest)) : List (HistoryRow Digest) :=
  if history.Perm table then table else history

theorem perm_rebuiltTable (history table : List (HistoryRow Digest)) :
    history.Perm (rebuiltTable history table) := by
  unfold rebuiltTable
  split
  · assumption
  · exact List.Perm.refl history

@[simp] theorem rebuiltTable_again (history table : List (HistoryRow Digest)) :
    rebuiltTable history (rebuiltTable history table) = rebuiltTable history table := by
  conv_lhs => rw [rebuiltTable, if_pos (perm_rebuiltTable history table)]

theorem publishHistory_run (history table : List (HistoryRow Digest)) :
    publishHistory history table =
      { commits := if history.Perm table then [] else [history]
        state := rebuiltTable history table
        result := .ok (if history.Perm table then .replay else .replace) } := by
  unfold publishHistory rebuiltTable
  rw [Job.read_bind_run]
  by_cases same : history.Perm table
  · rw [if_neg (mt exceeds_iff.mp (not_not.mpr same)), if_pos same, if_pos same,
      if_pos same]
    rfl
  · rw [if_pos (exceeds_iff.mpr same), if_neg same, if_neg same, if_neg same]
    rfl

/-- An accepted source is published in at most one commit, and the table then
holds the rebuilt history. -/
theorem rebuildCustomerHistory_run
    {table : List (HistoryRow Digest)}
    {silver : List SilverCustomer}
    (accepted : RebuildAccepted (withHistoryColumns digests silver) table) :
    let history := rebuiltHistory digests (withHistoryColumns digests silver)
    Exists fun report =>
      rebuildCustomerHistory digests silver table =
        { commits := if history.Perm table then [] else [history]
          state := rebuiltTable history table
          result := .ok report } := by
  intro history
  have distinct := distinctInstants_of_nodup digests accepted.distinctInstants
  have published : WellFormed (rebuiltTable history table) :=
    (wellFormed_rebuiltHistory digests distinct).of_perm (perm_rebuiltTable history table)
  have same : ¬(exceptAll history (rebuiltTable history table) ≠ [] ∨
      exceptAll (rebuiltTable history table) history ≠ []) :=
    mt exceeds_iff.mp (not_not.mpr (perm_rebuiltTable history table))
  unfold rebuildCustomerHistory
  rw [Job.reject_bind_run_of_not (by simpa using accepted.nonempty),
    Job.reject_bind_run_of_not (not_not.mpr accepted.required),
    Job.reject_bind_run_of_not
      (not_not.mpr (groupsWhere_repeated_eq_nil_iff.mpr accepted.distinctInstants)),
    Job.reject_bind_run_of_not
      (not_not.mpr (groupsWhere_repeated_eq_nil_iff.mpr accepted.distinctBatches)),
    Job.read_bind_run, Job.reject_bind_run_of_not (not_not.mpr accepted.covered),
    Job.bind_run, publishHistory_run]
  unfold Job.continueWith
  dsimp only
  rw [validateTarget_bind_run published, Job.read_bind_run,
    Job.reject_bind_run_of_not same, Job.pure_run, List.append_nil]
  exact ⟨_, rfl⟩

/-- A rebuild either fails a check before the publication or is accepted. -/
theorem rebuildCustomerHistory_cases
    (table : List (HistoryRow Digest))
    (silver : List SilverCustomer) :
    Job.Refused table (rebuildCustomerHistory digests silver table) ∨
      RebuildAccepted (withHistoryColumns digests silver) table := by
  unfold rebuildCustomerHistory
  apply Job.refused_or_of_reject
  intro nonempty
  apply Job.refused_or_of_reject
  intro required
  apply Job.refused_or_of_reject
  intro distinctInstants
  apply Job.refused_or_of_reject
  intro distinctBatches
  rw [Job.read_bind_run]
  apply Job.refused_or_of_reject
  intro covered
  right
  exact
    { nonempty := by simpa using nonempty
      required := not_not.mp required
      distinctInstants := groupsWhere_repeated_eq_nil_iff.mp (not_not.mp distinctInstants)
      distinctBatches := groupsWhere_repeated_eq_nil_iff.mp (not_not.mp distinctBatches)
      covered := not_not.mp covered }

/-- The rebuilt table covers a second rebuild, which finds nothing to change. -/
theorem rebuildAccepted_again
    {table : List (HistoryRow Digest)}
    {silver : List SilverCustomer}
    (accepted : RebuildAccepted (withHistoryColumns digests silver) table) :
    RebuildAccepted (withHistoryColumns digests silver)
      (rebuiltTable (rebuiltHistory digests (withHistoryColumns digests silver)) table) :=
  { accepted with
    covered := uncovered_rebuiltHistory digests
      (distinctInstants_of_nodup digests accepted.distinctInstants)
      (perm_rebuiltTable _ table) }

end CustomerScd2
end Spark
end LakehouseOps
