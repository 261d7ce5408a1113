import LakehouseOps.Spark.CustomerScd2Rebuild

/-!
# Safe publication of the customer history

Both modes of the job either fail before they publish anything or leave a
well-formed table and report it; running either again changes nothing. An
accepted forward batch is what the history shows as of its instant, unless it
repeats the current version while an older one was still in effect.
-/

namespace LakehouseOps
namespace Spark
namespace CustomerScd2

open Ingestion (Instant)
open Library Library.Table Library.Timeline

variable {Digest : Type} [DecidableEq Digest] (digests : HistoryDigests Digest)

/-! ## Chain preservation -/

/-- The job reports success and leaves a well-formed table at every commit. -/
structure Publishes
    {Report : Type}
    (execution : Execution (List (HistoryRow Digest)) JobError Report) : Prop where
  reports : Exists fun report => execution.result = .ok report
  wellFormed : WellFormed execution.state
  commits : forall table, table ∈ execution.commits -> table = execution.state

/-- A second run reports success and makes no commit. -/
structure Settled
    {Report : Type}
    (job : HistoryJob Digest Report)
    (table : List (HistoryRow Digest)) : Prop where
  reports : Exists fun report => (job table).result = .ok report
  commits : (job table).commits = []
  state : (job table).state = table

/-- Customers without a source row keep their rows, and closed versions stay. -/
structure Framed
    (silver : List SilverCustomer)
    (before after : List (HistoryRow Digest)) : Prop where
  absent : forall customerId, (forall row, row ∈ silver -> row.customerId ≠ customerId) ->
    rowsOf HistoryRow.customerId customerId after =
      rowsOf HistoryRow.customerId customerId before
  closed : (before.filter fun row => !row.isCurrent).Sublist
    (after.filter fun row => !row.isCurrent)

theorem forward_publishes
    {table : List (HistoryRow Digest)}
    (wellFormed : WellFormed table)
    {silver : List SilverCustomer}
    (batchId : String)
    (accepted : Accepted (withHistoryColumns digests silver) table) :
    Publishes (applyCustomerHistory digests silver batchId table) ∧
      Framed silver table (applyCustomerHistory digests silver batchId table).state ∧
      Settled (applyCustomerHistory digests silver batchId)
        (applyCustomerHistory digests silver batchId table).state := by
  obtain ⟨report, run⟩ := applyCustomerHistory_run digests wellFormed batchId accepted
  have published : WellFormed
      (forwardHistory digests table (withHistoryColumns digests silver)) :=
    wellFormed_mergedHistory digests wellFormed accepted.distinct_changed accepted.newer
  obtain ⟨again, settled⟩ := accepted_again digests wellFormed accepted
  obtain ⟨secondReport, secondRun⟩ :=
    applyCustomerHistory_run digests published batchId again
  rw [if_pos settled] at secondRun
  rw [run]
  refine ⟨⟨⟨report, rfl⟩, published, ?_⟩, ⟨?_, closed_sublist digests table _⟩, ?_⟩
  · intro state member
    dsimp only at member
    split at member
    · exact absurd member List.not_mem_nil
    · exact List.mem_singleton.mp member
  · intro customerId absent
    apply rowsOf_mergedHistory_unchanged
    apply rowsOf_eq_nil_iff.mpr
    intro row member
    obtain ⟨customer, inSilver, rfl⟩ := List.mem_map.mp (List.mem_filter.mp member).1
    exact absent customer inSilver
  · refine ⟨⟨secondReport, by rw [secondRun]⟩, by rw [secondRun], ?_⟩
    rw [secondRun]
    dsimp only
    conv_lhs => rw [forwardHistory, settled, mergedHistory_nil]

theorem rebuild_publishes
    {table : List (HistoryRow Digest)}
    {silver : List SilverCustomer}
    (accepted : RebuildAccepted (withHistoryColumns digests silver) table) :
    Publishes (rebuildCustomerHistory digests silver table) ∧
      Settled (rebuildCustomerHistory digests silver)
        (rebuildCustomerHistory digests silver table).state := by
  obtain ⟨report, run⟩ := rebuildCustomerHistory_run digests accepted
  have perm := perm_rebuiltTable
    (rebuiltHistory digests (withHistoryColumns digests silver)) table
  have wellFormed := (wellFormed_rebuiltHistory digests
    (distinctInstants_of_nodup digests accepted.distinctInstants)).of_perm perm
  obtain ⟨secondReport, secondRun⟩ :=
    rebuildCustomerHistory_run digests (rebuildAccepted_again digests accepted)
  rw [if_pos perm, rebuiltTable_again] at secondRun
  rw [run]
  refine ⟨⟨⟨report, rfl⟩, wellFormed, ?_⟩, ?_⟩
  · intro state member
    dsimp only at member ⊢
    unfold rebuiltTable
    split at member
    · exact absurd member List.not_mem_nil
    · rename_i differs
      rw [if_neg differs]
      exact List.mem_singleton.mp member
  · exact ⟨⟨secondReport, by rw [secondRun]⟩, by rw [secondRun], by rw [secondRun]⟩

/-! ## A small history -/

/-- Digests that keep what they digest. -/
def plainDigests : HistoryDigests (CustomerAttributes × Option (String × Option String)) where
  attributeHash attributes := (attributes, none)
  customerVersionId customerId digest batchId := (digest.1, some (customerId, batchId))

/-- The silver row of one customer with the given name. -/
def customerRow (batchId : String) (batchAt : Instant) (fullName : String) :
    SilverCustomer where
  fullName := some fullName
  email := none
  emailIsMissing := some true
  registeredAt := some 0
  sourceBatchId := some batchId
  sourceBatchAt := batchAt
  sourceRowHash := some batchId
  customerId := "C00000001"

/-- One customer, named `Ada` from 1 to 3 and `Alice` from 3 on. -/
def renamedCustomer :
    List (HistoryRow (CustomerAttributes × Option (String × Option String))) :=
  rebuiltHistory plainDigests
    (withHistoryColumns plainDigests [customerRow "a" 1 "Ada", customerRow "c" 3 "Alice"])

/-! ## The history as of a batch -/

/-- The history shows the row's attributes at the row's instant. -/
def Carries (table : List (HistoryRow Digest)) (row : SilverCustomer) : Prop :=
  Exists fun version => version ∈ table ∧ version.customerId = row.customerId ∧
    InEffect HistoryRow.validFrom HistoryRow.validTo row.sourceBatchAt version ∧
    version.toCustomerAttributes = row.toCustomerAttributes

/-- The customer of the row is known at the row's instant. -/
def KnownAt (table : List (HistoryRow Digest)) (row : SilverCustomer) : Prop :=
  Exists fun version => version ∈ table ∧ version.customerId = row.customerId ∧
    version.validFrom ≤ row.sourceBatchAt

/-- The row does not differ from the current version of its customer, but the
version in effect at its instant has other attributes. -/
def RepeatsCurrentLate
    (table : List (HistoryRow Digest))
    (row : SilverCustomer) : Prop :=
  Exists fun version => version ∈ table ∧ version.customerId = row.customerId ∧
    InEffect HistoryRow.validFrom HistoryRow.validTo row.sourceBatchAt version ∧
    version.toCustomerAttributes ≠ row.toCustomerAttributes ∧
    Exists fun current => current ∈ currentVersions table ∧
      current.customerId = row.customerId ∧
      sqlNe (some (digests.attributeHash row.toCustomerAttributes))
        current.attributeHash = false

instance (table : List (HistoryRow Digest)) (row : SilverCustomer) :
    Decidable (Carries table row) :=
  inferInstanceAs (Decidable (Exists fun version => version ∈ table ∧ _))

instance (table : List (HistoryRow Digest)) (row : SilverCustomer) :
    Decidable (KnownAt table row) :=
  inferInstanceAs (Decidable (Exists fun version => version ∈ table ∧ _))

/-- A batch that opens a version shows it as of its instant. -/
private theorem carries_of_opens
    {table : List (HistoryRow Digest)}
    {silver : List SilverCustomer}
    {row : SilverCustomer}
    (member : row ∈ silver)
    {source : SourceCustomer Digest}
    (sourceOf : source = { row with
      attributeHash := digests.attributeHash row.toCustomerAttributes
      validFrom := row.sourceBatchAt })
    (opens : opensVersion table source = true) :
    Carries (forwardHistory digests table (withHistoryColumns digests silver)) row := by
  subst sourceOf
  refine ⟨versionOf digests _ none, List.mem_append_right _ (List.mem_map_of_mem
    (List.mem_filter.mpr ⟨List.mem_map_of_mem member, opens⟩)), rfl, ⟨le_rfl, ?_⟩, rfl⟩
  intro limit stops
  exact absurd stops (by simp [versionOf])

omit [DecidableEq Digest] in
/-- What a history shows of a customer depends on its rows alone. -/
private theorem carries_congr
    {left right : List (HistoryRow Digest)}
    {row : SilverCustomer}
    (same : rowsOf HistoryRow.customerId row.customerId left =
      rowsOf HistoryRow.customerId row.customerId right) :
    (Carries left row ↔ Carries right row) ∧ (KnownAt left row ↔ KnownAt right row) := by
  have members : forall version : HistoryRow Digest,
      version ∈ left ∧ version.customerId = row.customerId ↔
        version ∈ right ∧ version.customerId = row.customerId := by
    intro version
    rw [← mem_rowsOf, ← mem_rowsOf, same]
  constructor
  · simp only [Carries, ← and_assoc, members]
  · simp only [KnownAt, ← and_assoc, members]

/-- A row that opens no version is shown as of its instant when it does not
repeat the current version too late. -/
private theorem carries_iff_of_unchanged
    {table : List (HistoryRow Digest)}
    (wellFormed : WellFormed table)
    {row : SilverCustomer}
    {current : HistoryRow Digest}
    (isCurrent : current ∈ currentVersions table)
    (own : current.customerId = row.customerId)
    (repeats : sqlNe (some (digests.attributeHash row.toCustomerAttributes))
      current.attributeHash = false) :
    (KnownAt table row -> Carries table row) ↔ ¬RepeatsCurrentLate digests table row := by
  have contiguous := (wellFormed_iff.mp wellFormed row.customerId).contiguous
  constructor
  · rintro shown ⟨version, member, versionOwn, inEffect, differs, _⟩
    obtain ⟨other, otherMember, otherOwn, otherInEffect, same⟩ :=
      shown ⟨version, member, versionOwn, inEffect.1⟩
    have unique := contiguous.inEffect_unique
      (mem_versionsOf.mpr ⟨member, versionOwn⟩)
      (mem_versionsOf.mpr ⟨otherMember, otherOwn⟩) inEffect otherInEffect
    exact differs (unique ▸ same)
  · rintro timely ⟨known, knownMember, knownOwn, started⟩
    obtain ⟨version, versionMember, inEffect⟩ := contiguous.exists_inEffect
      (mem_versionsOf.mpr ⟨knownMember, knownOwn⟩) started
    obtain ⟨member, versionOwn⟩ := mem_versionsOf.mp versionMember
    refine ⟨version, member, versionOwn, inEffect, ?_⟩
    by_contra differs
    exact timely ⟨version, member, versionOwn, inEffect, differs, current, isCurrent,
      own, repeats⟩

/-- Each row of an accepted batch is shown as of its instant exactly when it
does not repeat the current version too late. -/
private theorem carries_forward_iff
    {table : List (HistoryRow Digest)}
    (wellFormed : WellFormed table)
    {silver : List SilverCustomer}
    (accepted : Accepted (withHistoryColumns digests silver) table)
    {row : SilverCustomer}
    (member : row ∈ silver) :
    (KnownAt (forwardHistory digests table (withHistoryColumns digests silver)) row ->
      Carries (forwardHistory digests table (withHistoryColumns digests silver)) row) ↔
        ¬RepeatsCurrentLate digests table row := by
  obtain ⟨source, sourceOf⟩ : Exists fun source : SourceCustomer Digest =>
      source = { row with
        attributeHash := digests.attributeHash row.toCustomerAttributes
        validFrom := row.sourceBatchAt } := ⟨_, rfl⟩
  have inSource : source ∈ withHistoryColumns digests silver :=
    List.mem_map.mpr ⟨row, member, sourceOf.symm⟩
  have sourceOwn : source.customerId = row.customerId := by rw [sourceOf]
  have sourceHash : source.attributeHash =
      digests.attributeHash row.toCustomerAttributes := by rw [sourceOf]
  cases opens : opensVersion table source with
  | true =>
      refine iff_of_true (fun _ => carries_of_opens digests member sourceOf opens) ?_
      rintro ⟨_, _, _, _, _, version, isCurrent, own, repeats⟩
      rw [opensVersion, sourceOwn, sourceHash,
        wellFormed.currentVersion_eq_some_iff.mpr ⟨isCurrent, own⟩] at opens
      exact absurd opens (by simp [repeats])
  | false =>
      have unchanged := accepted.unchanged inSource opens
      rw [sourceOwn] at unchanged
      obtain ⟨carries, known⟩ := carries_congr
        (rowsOf_mergedHistory_unchanged digests table unchanged)
      rw [forwardHistory, carries, known]
      rw [opensVersion, sourceOwn, sourceHash] at opens
      cases found : currentVersion row.customerId table with
      | none => simp [found] at opens
      | some version =>
          rw [found] at opens
          obtain ⟨isCurrent, own⟩ := wellFormed.currentVersion_eq_some_iff.mp found
          exact carries_iff_of_unchanged digests wellFormed isCurrent own opens

/-- The history shows every row of an accepted batch as of its instant exactly
when no row repeats the current version of its customer while the version in
effect at that instant has other attributes. -/
theorem accepted_batch_carried_iff
    (table : List (HistoryRow Digest))
    (wellFormed : WellFormed table)
    (silver : List SilverCustomer)
    (batchId : String)
    (report : ForwardReport)
    (ready : (applyCustomerHistory digests silver batchId table).result = .ok report) :
    (forall row, row ∈ silver ->
      KnownAt (applyCustomerHistory digests silver batchId table).state row ->
        Carries (applyCustomerHistory digests silver batchId table).state row) ↔
      forall row, row ∈ silver -> ¬RepeatsCurrentLate digests table row := by
  rcases applyCustomerHistory_cases digests wellFormed silver batchId with
    refused | accepted
  · obtain ⟨problem, failed⟩ := refused.failed
    rw [ready] at failed
    contradiction
  · obtain ⟨_, run⟩ := applyCustomerHistory_run digests wellFormed batchId accepted
    rw [run]
    exact forall₂_congr fun row member =>
      carries_forward_iff digests wellFormed accepted member

/-- A newer row is shown as of its instant. -/
theorem accepted_batch_carried_iff_renamed :
    WellFormed renamedCustomer ∧
    ((forall row, row ∈ [customerRow "d" 4 "Ada"] ->
      KnownAt (applyCustomerHistory plainDigests [customerRow "d" 4 "Ada"] "d"
        renamedCustomer).state row ->
      Carries (applyCustomerHistory plainDigests [customerRow "d" 4 "Ada"] "d"
        renamedCustomer).state row) ↔
      forall row, row ∈ [customerRow "d" 4 "Ada"] ->
        ¬RepeatsCurrentLate plainDigests renamedCustomer row) :=
  ⟨by decide,
    accepted_batch_carried_iff plainDigests renamedCustomer (by decide)
      [customerRow "d" 4 "Ada"] "d"
      { batchId := "d", sourceRows := 1, changedRows := 1, targetRowsBefore := 2,
        targetRowsAfter := 3, rowsInserted := 1, currentRowsBefore := 1,
        currentRowsAfter := 1 }
      (by decide)⟩

/-- A batch of instant 2 with the name of instant 3 is accepted and reported
ready although the history says another name from 1 to 3. -/
theorem late_repeat_accepted :
    ¬forall (table : List (HistoryRow (CustomerAttributes × Option (String × Option String))))
      (silver : List SilverCustomer) (batchId : String) (report : ForwardReport),
      WellFormed table ->
      (applyCustomerHistory plainDigests silver batchId table).result = .ok report ->
      forall row, row ∈ silver ->
        KnownAt (applyCustomerHistory plainDigests silver batchId table).state row ->
        Carries (applyCustomerHistory plainDigests silver batchId table).state row := by
  intro claim
  have carried := claim renamedCustomer [customerRow "b" 2 "Alice"] "b"
    { batchId := "b", sourceRows := 1, changedRows := 0, targetRowsBefore := 2,
      targetRowsAfter := 2, rowsInserted := 0, currentRowsBefore := 1,
      currentRowsAfter := 1 }
    (by decide) (by decide) (customerRow "b" 2 "Alice") List.mem_cons_self (by decide)
  exact absurd carried (by decide)

end CustomerScd2
end Spark
end LakehouseOps
