import LakehouseOps.Spark.CustomerScd2Chains

/-!
# Forward publication

What the forward mode does to a well-formed history, customer by customer: a
changed customer has its last version closed and the new one appended, and all
other customers keep their rows. From this follow the checks after the
publication, the as-of property of an accepted batch and the replay behaviour.
-/

namespace LakehouseOps
namespace Spark
namespace CustomerScd2

open Ingestion (Instant)
open Library Library.Table Library.Timeline

variable {Digest : Type} (digests : HistoryDigests Digest)

/-- The source rows of a customer. -/
abbrev sourceRowsOf
    (customerId : String)
    (source : List (SourceCustomer Digest)) : List (SourceCustomer Digest) :=
  rowsOf (fun row => row.customerId) customerId source

/-! ## What the merge publishes -/

/-- The current version of a customer. -/
def currentVersion
    (customerId : String)
    (table : List (HistoryRow Digest)) : Option (HistoryRow Digest) :=
  (rowsOf HistoryRow.customerId customerId (currentVersions table)).head?

/-- The current version depends on the rows of the customer alone. -/
theorem currentVersion_congr
    {customerId : String}
    {left right : List (HistoryRow Digest)}
    (same : rowsOf HistoryRow.customerId customerId left =
      rowsOf HistoryRow.customerId customerId right) :
    currentVersion customerId left = currentVersion customerId right := by
  rw [currentVersion, rowsOf_currentVersions, same, ← rowsOf_currentVersions]
  rfl

/-- Whether a source row opens a version: its customer has no current version
or one with a different attribute hash. -/
def opensVersion
    [DecidableEq Digest]
    (table : List (HistoryRow Digest))
    (row : SourceCustomer Digest) : Bool :=
  match currentVersion row.customerId table with
  | none => true
  | some version => sqlNe (some row.attributeHash) version.attributeHash

/-- A version whose period ends at the given instant. -/
def closeVersion (version : HistoryRow Digest) (validTo : Instant) : HistoryRow Digest :=
  { version with validTo := some validTo, isCurrent := false }

/-- A current version closes when its customer changed. -/
def closeChanged
    (changed : List (SourceCustomer Digest))
    (version : HistoryRow Digest) : HistoryRow Digest :=
  if version.isCurrent then
    (sourceRowsOf version.customerId changed).head?.elim version fun next =>
      closeVersion version next.validFrom
  else version

/-- The table after the merge of some changed rows. -/
def mergedHistory
    (table : List (HistoryRow Digest))
    (changed : List (SourceCustomer Digest)) : List (HistoryRow Digest) :=
  table.map (closeChanged changed) ++ changed.map fun row => versionOf digests row none

@[simp] theorem closeChanged_customerId
    (changed : List (SourceCustomer Digest))
    (version : HistoryRow Digest) :
    (closeChanged changed version).customerId = version.customerId := by
  unfold closeChanged
  cases version.isCurrent with
  | false => rfl
  | true => cases (sourceRowsOf version.customerId changed).head? <;> rfl

/-- The source rows of a customer are at most one. -/
private theorem sourceRowsOf_eq_toList
    {source : List (SourceCustomer Digest)}
    (distinct : (source.map fun row => row.customerId).Nodup)
    (customerId : String) :
    sourceRowsOf customerId source = (sourceRowsOf customerId source).head?.toList := by
  cases rows : sourceRowsOf customerId source with
  | nil => rfl
  | cons row rest =>
      have member : row ∈ sourceRowsOf customerId source := by simp [rows]
      obtain ⟨inSource, rfl⟩ := mem_rowsOf.mp member
      rw [sourceRowsOf, rowsOf_eq_singleton distinct inSource] at rows
      rw [← rows]
      rfl

/-- The current versions of a customer are at most one. -/
theorem WellFormed.rowsOf_current
    {table : List (HistoryRow Digest)}
    (wellFormed : WellFormed table)
    (customerId : String) :
    rowsOf HistoryRow.customerId customerId (currentVersions table) =
      (currentVersion customerId table).toList := by
  unfold currentVersion
  rcases List.eq_nil_or_concat (versionsOf customerId table) with
    none | ⟨earlier, last, versions⟩
  · rw [currentVersions_of_versionsOf_eq_nil none]
    rfl
  · rw [wellFormed.one_current customerId (versions.trans List.concat_eq_append)]
    rfl

theorem WellFormed.currentVersion_eq_some_iff
    {table : List (HistoryRow Digest)}
    (wellFormed : WellFormed table)
    {customerId : String}
    {version : HistoryRow Digest} :
    currentVersion customerId table = some version ↔
      version ∈ currentVersions table ∧ version.customerId = customerId := by
  rw [← mem_rowsOf, wellFormed.rowsOf_current, Option.mem_toList]

/-- The join partners of a customer are its rows. -/
private theorem filter_partner
    (customerId : String)
    (versions : List (HistoryRow Digest)) :
    (versions.filter fun version => decide (customerId = version.customerId)) =
      rowsOf HistoryRow.customerId customerId versions := by
  unfold rowsOf
  apply List.filter_congr
  intro version _
  simp [eq_comm]

/-- The changed rows are the source rows that open a version. -/
theorem changedRows_eq
    [DecidableEq Digest]
    {table : List (HistoryRow Digest)}
    (wellFormed : WellFormed table)
    (source : List (SourceCustomer Digest)) :
    changedRows source (currentVersions table) =
      source.filter (opensVersion table) := by
  have joined : leftJoin (fun row version => decide (row.customerId = version.customerId))
      source (currentVersions table) =
        source.map fun row => (row, currentVersion row.customerId table) := by
    apply leftJoin_eq_map
    intro row _
    rw [filter_partner, wellFormed.rowsOf_current]
  have opens : ((fun pair : SourceCustomer Digest × Option (HistoryRow Digest) =>
      pair.2.isNone || sqlNe (some pair.1.attributeHash)
        (pair.2.bind HistoryRow.attributeHash)) ∘
        fun row => (row, currentVersion row.customerId table)) =
      opensVersion table := by
    funext row
    unfold opensVersion
    cases found : currentVersion row.customerId table <;> simp [found]
  rw [changedRows, joined, List.filter_map, List.map_map, opens]
  exact List.map_id _

/-- The staged row that closes the current version of a customer. -/
private def closingChange (row : SourceCustomer Digest) : StagedVersion Digest where
  version := versionOf digests row none
  mergeCustomerId := some row.customerId

/-- The staged row that inserts a version. -/
private def insertChange (row : SourceCustomer Digest) : StagedVersion Digest where
  version := versionOf digests row none
  mergeCustomerId := none

private theorem stagedChanges_eq
    {table : List (HistoryRow Digest)}
    (wellFormed : WellFormed table)
    (changed : List (SourceCustomer Digest)) :
    stagedChanges digests changed (currentVersions table) =
      (changed.filter fun row => (currentVersion row.customerId table).isSome).map
          (closingChange digests) ++
        changed.map (insertChange digests) := by
  have partners : forall staged : HistoryRow Digest,
      staged ∈ (changed.map fun row => versionOf digests row none) ->
        ((currentVersions table).filter fun other =>
          decide (staged.customerId = other.customerId)) =
          (currentVersion staged.customerId table).toList := by
    intro staged _
    rw [filter_partner, wellFormed.rowsOf_current]
  have closing := congrArg
    (List.map fun version : HistoryRow Digest =>
      ({ version := version, mergeCustomerId := some version.customerId } :
        StagedVersion Digest))
    (innerJoin_map_fst partners)
  rw [List.map_map, List.filter_map, List.map_map] at closing
  unfold stagedChanges
  dsimp only
  rw [List.map_map]
  exact congrArg (· ++ changed.map (insertChange digests)) closing

/-- The staged rows that match a target row: the closing row of its customer,
when the target row is current. -/
private theorem stagedChanges_filter
    {table : List (HistoryRow Digest)}
    (wellFormed : WellFormed table)
    {changed : List (SourceCustomer Digest)}
    (distinct : (changed.map fun row => row.customerId).Nodup)
    {version : HistoryRow Digest}
    (member : version ∈ table) :
    ((stagedChanges digests changed (currentVersions table)).filter fun change =>
        sqlEq (some version.customerId) change.mergeCustomerId && version.isCurrent) =
      ((if version.isCurrent then (sourceRowsOf version.customerId changed).head?
        else none).map (closingChange digests)).toList := by
  rw [stagedChanges_eq digests wellFormed, List.filter_append, List.filter_map,
    List.filter_map, List.filter_filter]
  have noInsert : changed.filter ((fun change : StagedVersion Digest =>
      sqlEq (some version.customerId) change.mergeCustomerId && version.isCurrent) ∘
        insertChange digests) = [] := by
    apply List.filter_eq_nil_iff.mpr
    intro row _
    simp [insertChange, sqlEq]
  rw [noInsert, List.map_nil, List.append_nil]
  cases isCurrent : version.isCurrent with
  | false => simp
  | true =>
      have own : (currentVersion version.customerId table).isSome = true := by
        rw [wellFormed.currentVersion_eq_some_iff.mpr
          ⟨List.mem_filter.mpr ⟨member, isCurrent⟩, rfl⟩]
        rfl
      have closingRows : changed.filter (fun row =>
          ((fun change : StagedVersion Digest =>
            sqlEq (some version.customerId) change.mergeCustomerId && true) ∘
              closingChange digests) row &&
            (currentVersion row.customerId table).isSome) =
          sourceRowsOf version.customerId changed := by
        apply List.filter_congr
        intro row _
        by_cases same : row.customerId = version.customerId
        · simp [closingChange, same, own]
        · simp [closingChange, same, Ne.symm same]
      rw [closingRows, sourceRowsOf_eq_toList distinct]
      cases (sourceRowsOf version.customerId changed).head? <;> rfl

/-- The merge closes the current versions of the changed customers and adds
their new versions. -/
theorem mergeChanges_eq
    {table : List (HistoryRow Digest)}
    (wellFormed : WellFormed table)
    {changed : List (SourceCustomer Digest)}
    (distinct : (changed.map fun row => row.customerId).Nodup) :
    mergeChanges table (stagedChanges digests changed (currentVersions table)) =
      some (mergedHistory digests table changed) := by
  unfold mergeChanges mergedHistory
  rw [merge_eq_some fun version member =>
    stagedChanges_filter digests wellFormed distinct member]
  congr 2
  · apply List.map_congr_left
    intro version _
    unfold closeChanged
    cases version.isCurrent with
    | false => rfl
    | true => cases (sourceRowsOf version.customerId changed).head? <;> rfl
  · rw [stagedChanges_eq digests wellFormed, List.filter_append, List.filter_map,
      List.filter_map]
    have noClosing : (changed.filter fun row =>
        (currentVersion row.customerId table).isSome).filter
          ((fun other : StagedVersion Digest =>
            !(table.any fun row =>
              sqlEq (some row.customerId) other.mergeCustomerId && row.isCurrent) &&
              other.mergeCustomerId.isNone) ∘ closingChange digests) = [] := by
      apply List.filter_eq_nil_iff.mpr
      intro row _
      simp [closingChange]
    have allInserts : changed.filter
        ((fun other : StagedVersion Digest =>
          !(table.any fun row =>
            sqlEq (some row.customerId) other.mergeCustomerId && row.isCurrent) &&
            other.mergeCustomerId.isNone) ∘ insertChange digests) = changed := by
      apply List.filter_eq_self.mpr
      intro row _
      simp [insertChange, sqlEq]
    rw [noClosing, allInserts, List.map_nil, List.nil_append, List.map_map]
    rfl

/-! ## The versions of one customer after the merge -/

/-- The rows of one customer after the merge. -/
private theorem rowsOf_mergedHistory
    (table : List (HistoryRow Digest))
    (changed : List (SourceCustomer Digest))
    (customerId : String) :
    rowsOf HistoryRow.customerId customerId (mergedHistory digests table changed) =
      (rowsOf HistoryRow.customerId customerId table).map (closeChanged changed) ++
        (sourceRowsOf customerId changed).map fun row => versionOf digests row none := by
  have inserted : rowsOf HistoryRow.customerId customerId
      (changed.map fun row => versionOf digests row none) =
        (sourceRowsOf customerId changed).map fun row => versionOf digests row none :=
    rowsOf_map (fun _ => rfl) customerId changed
  rw [mergedHistory, rowsOf_append, rowsOf_map (closeChanged_customerId changed), inserted]

/-- Without a changed row the rows of a customer stay as they are. -/
theorem rowsOf_mergedHistory_unchanged
    (table : List (HistoryRow Digest))
    {changed : List (SourceCustomer Digest)}
    {customerId : String}
    (unchanged : sourceRowsOf customerId changed = []) :
    rowsOf HistoryRow.customerId customerId (mergedHistory digests table changed) =
      rowsOf HistoryRow.customerId customerId table := by
  rw [rowsOf_mergedHistory, unchanged, List.map_nil, List.append_nil]
  conv_rhs => rw [← List.map_id (rowsOf HistoryRow.customerId customerId table)]
  apply List.map_congr_left
  intro version member
  obtain ⟨_, rfl⟩ := mem_rowsOf.mp member
  simp [closeChanged, unchanged]

theorem versionsOf_mergedHistory_unchanged
    (table : List (HistoryRow Digest))
    {changed : List (SourceCustomer Digest)}
    {customerId : String}
    (unchanged : sourceRowsOf customerId changed = []) :
    versionsOf customerId (mergedHistory digests table changed) =
      versionsOf customerId table := by
  rw [versionsOf, rowsOf_mergedHistory_unchanged digests table unchanged]
  rfl

/-- The rows of a changed customer: its rows, the current one closed, and the
new version. -/
private theorem rowsOf_mergedHistory_changed
    (table : List (HistoryRow Digest))
    {changed : List (SourceCustomer Digest)}
    (distinct : (changed.map fun row => row.customerId).Nodup)
    {row : SourceCustomer Digest}
    (member : row ∈ changed) :
    rowsOf HistoryRow.customerId row.customerId (mergedHistory digests table changed) =
      (rowsOf HistoryRow.customerId row.customerId table).map
          (fun version => if version.isCurrent then closeVersion version row.validFrom
            else version) ++
        [versionOf digests row none] := by
  have only : sourceRowsOf row.customerId changed = [row] :=
    rowsOf_eq_singleton distinct member
  rw [rowsOf_mergedHistory, only]
  congr 1
  apply List.map_congr_left
  intro version versionMember
  rw [closeChanged, (mem_rowsOf.mp versionMember).2, only]
  rfl

/-- A new customer gets one open version. -/
theorem versionsOf_mergedHistory_new
    {table : List (HistoryRow Digest)}
    {changed : List (SourceCustomer Digest)}
    (distinct : (changed.map fun row => row.customerId).Nodup)
    {row : SourceCustomer Digest}
    (member : row ∈ changed)
    (absent : versionsOf row.customerId table = []) :
    versionsOf row.customerId (mergedHistory digests table changed) =
      [versionOf digests row none] := by
  apply versionsOf_eq_of_perm
  · exact contiguous_singleton.mpr rfl
  · rw [rowsOf_mergedHistory_changed digests table distinct member,
      versionsOf_eq_nil_iff.mp absent]
    exact List.Perm.refl _

/-- A known customer with a newer change has its last version closed and the
new one appended. -/
theorem versionsOf_mergedHistory_changed
    {table : List (HistoryRow Digest)}
    (wellFormed : WellFormed table)
    {changed : List (SourceCustomer Digest)}
    (distinct : (changed.map fun row => row.customerId).Nodup)
    {row : SourceCustomer Digest}
    (member : row ∈ changed)
    {earlier : List (HistoryRow Digest)}
    {last : HistoryRow Digest}
    (versions : versionsOf row.customerId table = earlier ++ [last])
    (newer : last.validFrom < row.validFrom) :
    versionsOf row.customerId (mergedHistory digests table changed) =
      earlier ++ [closeVersion last row.validFrom, versionOf digests row none] := by
  have chain := wellFormed_iff.mp wellFormed row.customerId
  rw [versions] at chain
  obtain ⟨onlyLast, earlierClosed⟩ := chain.only_last_current
  have lastCurrent : last.isCurrent = true := by
    have selected : last ∈ currentVersions (earlier ++ [last]) := by simp [onlyLast]
    exact (List.mem_filter.mp selected).2
  have perm := (versionsOf_perm row.customerId table).map fun version =>
    if version.isCurrent then closeVersion version row.validFrom else version
  have closed : (earlier ++ [last]).map (fun version =>
      if version.isCurrent then closeVersion version row.validFrom else version) =
        earlier ++ [closeVersion last row.validFrom] := by
    rw [List.map_append]
    congr 1
    · conv_rhs => rw [← List.map_id earlier]
      apply List.map_congr_left
      intro version versionMember
      simp [earlierClosed version versionMember]
    · simp [lastCurrent]
  rw [versions, closed] at perm
  apply versionsOf_eq_of_perm
  · exact chain.contiguous.extend newer rfl rfl rfl
  · rw [rowsOf_mergedHistory_changed digests table distinct member]
    have appended := perm.append_right [versionOf digests row none]
    rwa [List.append_assoc] at appended

/-- Every changed row is newer than the last version of its customer. -/
def Newer
    (table : List (HistoryRow Digest))
    (changed : List (SourceCustomer Digest)) : Prop :=
  forall row, row ∈ changed -> forall version,
    currentVersion row.customerId table = some version ->
      version.validFrom < row.validFrom

/-- The versions of a customer end with its current version. -/
theorem WellFormed.versions_cases
    {table : List (HistoryRow Digest)}
    (wellFormed : WellFormed table)
    (customerId : String) :
    (versionsOf customerId table = [] ∧ currentVersion customerId table = none) ∨
      Exists fun earlier => Exists fun last =>
        versionsOf customerId table = earlier ++ [last] ∧
          currentVersion customerId table = some last := by
  unfold currentVersion
  rcases List.eq_nil_or_concat (versionsOf customerId table) with
    none | ⟨earlier, last, versions⟩
  · rw [currentVersions_of_versionsOf_eq_nil none]
    exact Or.inl ⟨none, rfl⟩
  · rw [List.concat_eq_append] at versions
    rw [wellFormed.one_current customerId versions]
    exact Or.inr ⟨earlier, last, versions, rfl⟩

/-- The merge of newer changes keeps the table well formed. -/
theorem wellFormed_mergedHistory
    {table : List (HistoryRow Digest)}
    (wellFormed : WellFormed table)
    {changed : List (SourceCustomer Digest)}
    (distinct : (changed.map fun row => row.customerId).Nodup)
    (newer : Newer table changed) :
    WellFormed (mergedHistory digests table changed) := by
  apply wellFormed_iff.mpr
  intro customerId
  have chain := wellFormed_iff.mp wellFormed customerId
  cases rows : sourceRowsOf customerId changed with
  | nil =>
      rw [versionsOf_mergedHistory_unchanged digests table rows]
      exact chain
  | cons row rest =>
      have present : row ∈ sourceRowsOf customerId changed := by simp [rows]
      obtain ⟨member, rfl⟩ := mem_rowsOf.mp present
      rcases wellFormed.versions_cases row.customerId with
        ⟨absent, _⟩ | ⟨earlier, last, versions, current⟩
      · rw [versionsOf_mergedHistory_new digests distinct member absent]
        exact ⟨contiguous_singleton.mpr rfl, by simp [versionOf]⟩
      · have later := newer row member last current
        rw [versionsOf_mergedHistory_changed digests wellFormed distinct member
          versions later]
        rw [versions] at chain
        refine ⟨chain.contiguous.extend later rfl rfl rfl, ?_⟩
        intro version versionMember
        rw [List.mem_append, List.mem_cons, List.mem_singleton] at versionMember
        rcases versionMember with inEarlier | rfl | rfl
        · exact chain.current version (List.mem_append_left _ inEarlier)
        · rfl
        · rfl

theorem mergedHistory_length
    (table : List (HistoryRow Digest))
    (changed : List (SourceCustomer Digest)) :
    (mergedHistory digests table changed).length = table.length + changed.length := by
  simp [mergedHistory]

theorem mergedHistory_nil (table : List (HistoryRow Digest)) :
    mergedHistory digests table [] = table := by
  unfold mergedHistory
  rw [List.map_nil, List.append_nil]
  conv_rhs => rw [← List.map_id table]
  apply List.map_congr_left
  intro version _
  simp [closeChanged]

/-- Closed versions stay in the table as they are. -/
theorem closed_sublist
    (table : List (HistoryRow Digest))
    (changed : List (SourceCustomer Digest)) :
    (table.filter fun row => !row.isCurrent).Sublist
      ((mergedHistory digests table changed).filter fun row => !row.isCurrent) := by
  unfold mergedHistory
  rw [List.filter_append]
  refine List.Sublist.trans ?_ (List.sublist_append_left _ _)
  induction table with
  | nil => exact List.Sublist.refl []
  | cons row rest inductionHypothesis =>
      cases isCurrent : row.isCurrent with
      | false =>
          simp only [List.map_cons, closeChanged, isCurrent, Bool.false_eq_true,
            if_false, List.filter_cons, Bool.not_false, if_true]
          exact inductionHypothesis.cons_cons row
      | true =>
          rw [List.filter_cons_of_neg (by simp [isCurrent]), List.map_cons,
            List.filter_cons]
          split
          · exact inductionHypothesis.cons _
          · exact inductionHypothesis

/-- The publishing statement commits the merge when a row changed. -/
theorem publishChanges_bind_run
    {Value : Type}
    {table : List (HistoryRow Digest)}
    (wellFormed : WellFormed table)
    {changed : List (SourceCustomer Digest)}
    (distinct : (changed.map fun row => row.customerId).Nodup)
    (next : Unit -> HistoryJob Digest Value)
    (rest : Execution (List (HistoryRow Digest)) JobError Value)
    (continues : next () (mergedHistory digests table changed) = rest) :
    (publishChanges digests changed (currentVersions table) >>= next) table =
      { commits := (if changed = [] then []
          else [mergedHistory digests table changed]) ++ rest.commits
        state := rest.state
        result := rest.result } := by
  subst continues
  have merged := mergeChanges_eq digests wellFormed distinct
  unfold publishChanges
  cases changed with
  | nil =>
      rw [mergedHistory_nil]
      rfl
  | cons row rest =>
      rw [if_pos (by simp), if_neg (by simp), Job.bind_run, Job.read_bind_run, merged]
      rfl

/-! ## Runs -/

section Runs

variable [DecidableEq Digest]

/-- The conditions that the checks before the publication establish. -/
structure Accepted
    (source : List (SourceCustomer Digest))
    (table : List (HistoryRow Digest)) : Prop where
  nonempty : source ≠ []
  oneInstant : (keys (fun row => row.sourceBatchAt) source).length = 1
  distinct : (source.map fun row => row.customerId).Nodup
  newer : Newer table (source.filter (opensVersion table))

theorem Accepted.distinct_changed
    {source : List (SourceCustomer Digest)}
    {table : List (HistoryRow Digest)}
    (accepted : Accepted source table) :
    ((source.filter (opensVersion table)).map fun row => row.customerId).Nodup :=
  accepted.distinct.sublist (List.filter_sublist.map _)

/-- A customer whose row opens no version has no changed row. -/
theorem Accepted.unchanged
    {source : List (SourceCustomer Digest)}
    {table : List (HistoryRow Digest)}
    (accepted : Accepted source table)
    {row : SourceCustomer Digest}
    (member : row ∈ source)
    (repeats : opensVersion table row = false) :
    sourceRowsOf row.customerId (source.filter (opensVersion table)) = [] := by
  apply rowsOf_eq_nil_iff.mpr
  intro other otherMember same
  obtain ⟨otherSource, otherOpens⟩ := List.mem_filter.mp otherMember
  have equal := List.inj_on_of_nodup_map accepted.distinct otherSource member same
  rw [equal, repeats] at otherOpens
  contradiction

/-- The staleness guard refuses exactly the changes that are not newer. -/
theorem outOfOrder_eq_nil_iff
    {table : List (HistoryRow Digest)}
    (wellFormed : WellFormed table)
    (source : List (SourceCustomer Digest)) :
    outOfOrder source (currentVersions table) = [] ↔
      Newer table (source.filter (opensVersion table)) := by
  unfold outOfOrder
  rw [List.filter_eq_nil_iff]
  constructor
  · intro fresh row rowMember version found
    obtain ⟨inSource, opens⟩ := List.mem_filter.mp rowMember
    obtain ⟨isCurrent, same⟩ := wellFormed.currentVersion_eq_some_iff.mp found
    have joined := fresh (row, version)
      (mem_innerJoin.mpr ⟨inSource, isCurrent, by simp [same]⟩)
    have differs : sqlNe (some row.attributeHash) version.attributeHash = true := by
      simpa [opensVersion, found] using opens
    simpa [differs] using joined
  · rintro newer ⟨row, version⟩ joined
    obtain ⟨inSource, isCurrent, same⟩ := mem_innerJoin.mp joined
    have found := wellFormed.currentVersion_eq_some_iff.mpr
      ⟨isCurrent, (of_decide_eq_true same).symm⟩
    cases differs : sqlNe (some row.attributeHash) version.attributeHash with
    | false => simp
    | true =>
        have opens : row ∈ source.filter (opensVersion table) := by
          simp [inSource, opensVersion, found, differs]
        simp [newer row opens version found]

/-- After the merge no source row opens a version any more. -/
theorem opensVersion_mergedHistory
    {table : List (HistoryRow Digest)}
    (wellFormed : WellFormed table)
    {source : List (SourceCustomer Digest)}
    (accepted : Accepted source table)
    {row : SourceCustomer Digest}
    (member : row ∈ source) :
    opensVersion
      (mergedHistory digests table (source.filter (opensVersion table))) row = false := by
  have distinct := accepted.distinct_changed
  have published := wellFormed_mergedHistory digests wellFormed distinct accepted.newer
  cases opens : opensVersion table row with
  | true =>
      have changed : row ∈ source.filter (opensVersion table) :=
        List.mem_filter.mpr ⟨member, opens⟩
      have current : currentVersion row.customerId
          (mergedHistory digests table (source.filter (opensVersion table))) =
            some (versionOf digests row none) := by
        rcases wellFormed.versions_cases row.customerId with
          ⟨absent, _⟩ | ⟨earlier, last, versions, found⟩
        · have versions := versionsOf_mergedHistory_new digests distinct changed absent
          rw [currentVersion, published.one_current row.customerId
            (versions.trans (List.nil_append _).symm)]
          rfl
        · have later := accepted.newer row changed last found
          have versions := versionsOf_mergedHistory_changed digests wellFormed distinct
            changed versions later
          rw [currentVersion, published.one_current row.customerId
            (versions.trans (List.append_cons _ _ _))]
          rfl
      simp [opensVersion, current, versionOf]
  | false =>
      have rows := rowsOf_mergedHistory_unchanged digests table
        (accepted.unchanged member opens)
      rw [← opens, opensVersion, currentVersion_congr rows]
      rfl

/-- The checks after the publication pass when no source row opens a version
and the table grew by the changed rows. -/
theorem confirmForward_run
    {published : List (HistoryRow Digest)}
    (wellFormed : WellFormed published)
    (batchId : String)
    {source changed : List (SourceCustomer Digest)}
    {before : List (HistoryRow Digest)}
    (settled : forall row, row ∈ source -> opensVersion published row = false)
    (grown : published.length = before.length + changed.length) :
    Exists fun report =>
      confirmForward batchId source changed before published =
        { commits := [], state := published, result := .ok report } := by
  have partners : forall row, row ∈ source ->
      ((currentVersions published).filter fun version =>
        decide (row.customerId = version.customerId)) =
        (currentVersion row.customerId published).toList := by
    intro row _
    rw [filter_partner, wellFormed.rowsOf_current]
  have matched : (innerJoin (fun (row : SourceCustomer Digest) version =>
      decide (row.customerId = version.customerId))
      source (currentVersions published)).length = source.length := by
    have joined := congrArg List.length (innerJoin_map_fst partners)
    rw [List.length_map] at joined
    rw [joined, List.filter_eq_self.mpr]
    intro row member
    have unopened := settled row member
    unfold opensVersion at unopened
    cases found : currentVersion row.customerId published with
    | none => simp [found] at unopened
    | some version => rfl
  have mismatched : (innerJoin (fun (row : SourceCustomer Digest) version =>
      decide (row.customerId = version.customerId))
      source (currentVersions published)).filter (fun pair =>
        sqlNe (some pair.1.attributeHash) pair.2.attributeHash) = [] := by
    apply List.filter_eq_nil_iff.mpr
    rintro ⟨row, version⟩ joined
    obtain ⟨member, isCurrent, same⟩ := mem_innerJoin.mp joined
    have found := wellFormed.currentVersion_eq_some_iff.mpr
      ⟨isCurrent, (of_decide_eq_true same).symm⟩
    have unopened := settled row member
    rw [opensVersion, found] at unopened
    simp [unopened]
  have inserted : (published.length : Int) - before.length = changed.length := by
    omega
  unfold confirmForward
  rw [validateTarget_bind_run wellFormed, Job.read_bind_run]
  rw [Job.reject_bind_run_of_not]
  · exact ⟨_, rfl⟩
  · simp [matched, mismatched, inserted]

/-- The forward history of a table after a source. -/
def forwardHistory
    (table : List (HistoryRow Digest))
    (source : List (SourceCustomer Digest)) : List (HistoryRow Digest) :=
  mergedHistory digests table (source.filter (opensVersion table))

/-- An accepted source is published in one commit, or in none when nothing
changed, and reported. -/
theorem applyCustomerHistory_run
    {table : List (HistoryRow Digest)}
    (wellFormed : WellFormed table)
    {silver : List SilverCustomer}
    (batchId : String)
    (accepted : Accepted (withHistoryColumns digests silver) table) :
    let source := withHistoryColumns digests silver
    Exists fun report =>
      applyCustomerHistory digests silver batchId table =
        { commits := if source.filter (opensVersion table) = [] then []
            else [forwardHistory digests table source]
          state := forwardHistory digests table source
          result := .ok report } := by
  intro source
  have published := wellFormed_mergedHistory digests wellFormed
    accepted.distinct_changed accepted.newer
  have settled : forall row, row ∈ source ->
      opensVersion (forwardHistory digests table source) row = false :=
    fun row member => opensVersion_mergedHistory digests wellFormed accepted member
  obtain ⟨report, confirmed⟩ := confirmForward_run published batchId settled
    (mergedHistory_length digests table _)
  refine ⟨report, ?_⟩
  unfold applyCustomerHistory
  rw [Job.reject_bind_run_of_not (by simpa using accepted.nonempty),
    Job.reject_bind_run_of_not (by simpa using accepted.oneInstant),
    Job.reject_bind_run_of_not
      (not_not.mpr (length_keys_eq_iff.mpr accepted.distinct)),
    validateTarget_bind_run wellFormed, Job.read_bind_run,
    Job.reject_bind_run_of_not
      (not_not.mpr ((outOfOrder_eq_nil_iff wellFormed _).mpr accepted.newer)),
    changedRows_eq wellFormed,
    publishChanges_bind_run digests wellFormed accepted.distinct_changed _ _ confirmed]
  simp only [List.append_nil]
  rfl

/-- A forward run either fails a check before the publication or is accepted. -/
theorem applyCustomerHistory_cases
    {table : List (HistoryRow Digest)}
    (wellFormed : WellFormed table)
    (silver : List SilverCustomer)
    (batchId : String) :
    Job.Refused table (applyCustomerHistory digests silver batchId table) ∨
      Accepted (withHistoryColumns digests silver) table := by
  unfold applyCustomerHistory
  apply Job.refused_or_of_reject
  intro nonempty
  apply Job.refused_or_of_reject
  intro oneInstant
  apply Job.refused_or_of_reject
  intro distinct
  rw [validateTarget_bind_run wellFormed, Job.read_bind_run]
  apply Job.refused_or_of_reject
  intro ordered
  right
  exact
    { nonempty := by simpa using nonempty
      oneInstant := not_not.mp oneInstant
      distinct := length_keys_eq_iff.mp (not_not.mp distinct)
      newer := (outOfOrder_eq_nil_iff wellFormed _).mp (not_not.mp ordered) }

/-- The published source is accepted again and changes nothing more. -/
theorem accepted_again
    {table : List (HistoryRow Digest)}
    (wellFormed : WellFormed table)
    {source : List (SourceCustomer Digest)}
    (accepted : Accepted source table) :
    Accepted source (forwardHistory digests table source) ∧
      source.filter (opensVersion (forwardHistory digests table source)) = [] := by
  have settled : source.filter
      (opensVersion (forwardHistory digests table source)) = [] := by
    apply List.filter_eq_nil_iff.mpr
    intro row member
    rw [forwardHistory, opensVersion_mergedHistory digests wellFormed accepted member]
    simp
  refine ⟨⟨accepted.nonempty, accepted.oneInstant, accepted.distinct, ?_⟩, settled⟩
  intro row member
  rw [settled] at member
  exact absurd member List.not_mem_nil

end Runs

end CustomerScd2
end Spark
end LakehouseOps
