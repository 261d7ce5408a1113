import LakehouseOps.Spark.CustomerScd2Safety

/-!
# The reference history

The reference history says what the table should hold for a set of silver rows:
each customer's rows in the order of their instants, without rows that repeat
the attributes before them, each valid until the next. A rebuild publishes it,
and a forward run with newer rows takes the reference history of the earlier
rows to the one of all rows.
-/

namespace LakehouseOps
namespace Spark
namespace CustomerScd2

open Ingestion (Instant)
open Library Library.Table Library.Timeline

variable {Digest : Type} (digests : HistoryDigests Digest)

/-- The versions that observed rows of one customer give rise to. -/
def referenceVersions (observed : List (SourceCustomer Digest)) : List (HistoryRow Digest) :=
  (timeline (fun row : SourceCustomer Digest => row.toCustomerAttributes)
    (fun row => row.validFrom) observed).map fun version =>
      versionOf digests version.1 version.2

/-- The reference history of silver rows. -/
def referenceHistory (silver : List SilverCustomer) : List (HistoryRow Digest) :=
  windowOver (fun row => row.customerId) (fun row => row.validFrom)
    (referenceVersions digests) (withHistoryColumns digests silver)

/-- The attribute hash tells the attributes of the given rows apart. -/
def Distinguishes (silver : List SilverCustomer) : Prop :=
  forall left, left ∈ silver -> forall right, right ∈ silver ->
    digests.attributeHash left.toCustomerAttributes =
      digests.attributeHash right.toCustomerAttributes ->
    left.toCustomerAttributes = right.toCustomerAttributes

/-- One row for each customer and instant. -/
def DistinctRows (silver : List SilverCustomer) : Prop :=
  (silver.map fun row => (row.customerId, row.sourceBatchAt)).Nodup

theorem DistinctRows.instants
    {silver : List SilverCustomer}
    (distinct : DistinctRows silver) :
    DistinctInstants (withHistoryColumns digests silver) := by
  apply distinctInstants_of_nodup
  rw [withHistoryColumns, List.map_map]
  exact distinct

/-- A source row is a silver row with the hash of its attributes. -/
theorem mem_withHistoryColumns
    {silver : List SilverCustomer}
    {row : SourceCustomer Digest}
    (member : row ∈ withHistoryColumns digests silver) :
    row.toSilverCustomer ∈ silver ∧
      row.attributeHash = digests.attributeHash row.toCustomerAttributes ∧
      row.validFrom = row.sourceBatchAt := by
  obtain ⟨customer, inSilver, rfl⟩ := List.mem_map.mp member
  exact ⟨inSilver, rfl, rfl⟩

theorem mem_observations
    {customerId : String}
    {source : List (SourceCustomer Digest)}
    {row : SourceCustomer Digest} :
    row ∈ observations customerId source ↔
      row ∈ source ∧ row.customerId = customerId := by
  rw [observations, (orderedBy_perm _ _).mem_iff, mem_rowsOf]

/-- The reference history of a customer comes from its observations. -/
theorem rowsOf_referenceHistory
    (silver : List SilverCustomer)
    (customerId : String) :
    rowsOf HistoryRow.customerId customerId (referenceHistory digests silver) =
      referenceVersions digests
        (observations customerId (withHistoryColumns digests silver)) := by
  apply rowsOf_windowOver
  · rfl
  · intro value part own out member
    obtain ⟨period, periodMember, rfl⟩ := List.mem_map.mp member
    have changed := List.mem_map_of_mem (f := Prod.fst) periodMember
    rw [timeline, periods_map_fst] at changed
    exact own period.1 ((changes_sublist part).mem changed)

theorem chain_referenceVersions
    {observed : List (SourceCustomer Digest)}
    (ascending : observed.Pairwise fun left right => left.validFrom < right.validFrom) :
    Chain (referenceVersions digests observed) := by
  constructor
  · apply (contiguous_map (fun _ => rfl) (fun _ => rfl)).mpr
    exact timeline_contiguous ascending
  · intro version member
    obtain ⟨period, _, rfl⟩ := List.mem_map.mp member
    rfl

theorem versionsOf_referenceHistory
    {silver : List SilverCustomer}
    (distinct : DistinctRows silver)
    (customerId : String) :
    versionsOf customerId (referenceHistory digests silver) =
      referenceVersions digests
        (observations customerId (withHistoryColumns digests silver)) := by
  apply versionsOf_eq_of_perm
  · exact (chain_referenceVersions digests
      (observations_strict (distinct.instants digests) customerId)).contiguous
  · rw [rowsOf_referenceHistory]

theorem wellFormed_referenceHistory
    {silver : List SilverCustomer}
    (distinct : DistinctRows silver) :
    WellFormed (referenceHistory digests silver) := by
  apply wellFormed_iff.mpr
  intro customerId
  rw [versionsOf_referenceHistory digests distinct]
  exact chain_referenceVersions digests
    (observations_strict (distinct.instants digests) customerId)

/-- A table is the reference history when it has the reference versions of
every customer. -/
theorem perm_referenceHistory_iff
    {silver : List SilverCustomer}
    (distinct : DistinctRows silver)
    {table : List (HistoryRow Digest)} :
    table.Perm (referenceHistory digests silver) ↔
      forall customerId, versionsOf customerId table =
        referenceVersions digests
          (observations customerId (withHistoryColumns digests silver)) := by
  constructor
  · intro perm customerId
    rw [← versionsOf_referenceHistory digests distinct]
    have chain := wellFormed_iff.mp (wellFormed_referenceHistory digests distinct) customerId
    exact versionsOf_eq_of_perm chain.contiguous
      ((versionsOf_perm customerId _).trans (perm.symm.filter _))
  · intro versions
    apply perm_of_rowsOf HistoryRow.customerId
    intro customerId
    rw [rowsOf_referenceHistory, ← versions customerId]
    exact (versionsOf_perm customerId table).symm

/-- The order of the silver rows does not matter. -/
theorem referenceHistory_perm
    {left right : List SilverCustomer}
    (distinct : DistinctRows left)
    (perm : left.Perm right) :
    (referenceHistory digests left).Perm (referenceHistory digests right) := by
  have rightDistinct : DistinctRows right := (perm.map _).nodup_iff.mp distinct
  apply (perm_referenceHistory_iff digests rightDistinct).mpr
  intro customerId
  rw [versionsOf_referenceHistory digests distinct]
  congr 1
  symm
  apply orderedBy_eq_of_perm
  · exact (orderedBy_perm _ _).trans ((perm.map _).filter _)
  · exact observations_strict (distinct.instants digests) customerId

/-! ## Forward steps -/

/-- Newer rows are observed after the earlier ones. -/
theorem observations_append
    {old new : List (SourceCustomer Digest)}
    (distinct : DistinctInstants (old ++ new))
    {customerId : String}
    {row : SourceCustomer Digest}
    (only : sourceRowsOf customerId new = [row])
    (newer : forall earlier, earlier ∈ old -> earlier.validFrom < row.validFrom) :
    observations customerId (old ++ new) = observations customerId old ++ [row] := by
  have oldDistinct : DistinctInstants old := by
    intro other
    have all := distinct other
    rw [sourceRowsOf, rowsOf_append, List.map_append] at all
    exact all.of_append_left
  apply orderedBy_eq_of_perm
  · rw [sourceRowsOf, rowsOf_append]
    have newRows : rowsOf (fun row : SourceCustomer Digest => row.customerId) customerId new =
        [row] := only
    rw [newRows]
    exact (orderedBy_perm _ _).append_right [row]
  · rw [List.pairwise_append]
    refine ⟨observations_strict oldDistinct customerId, List.pairwise_singleton _ _, ?_⟩
    intro earlier member last isLast
    rw [List.mem_singleton] at isLast
    subst isLast
    exact newer earlier (mem_observations.mp member).1

/-- A repeated observation changes nothing. -/
theorem referenceVersions_repeat
    {observed : List (SourceCustomer Digest)}
    {row : SourceCustomer Digest}
    (repeats : observed.getLast?.map (fun last => last.toCustomerAttributes) =
      some row.toCustomerAttributes) :
    referenceVersions digests (observed ++ [row]) = referenceVersions digests observed := by
  rw [referenceVersions, timeline, changes_append, if_pos repeats, List.append_nil]
  rfl

/-- The versions of a nonempty list of observations end with an open version of
the last attributes, which a later change closes. -/
theorem referenceVersions_change
    {observed : List (SourceCustomer Digest)}
    (present : observed ≠ [])
    (row : SourceCustomer Digest) :
    Exists fun earlier => Exists fun last => last ∈ observed ∧
      observed.getLast?.map (fun last => last.toCustomerAttributes) =
        some last.toCustomerAttributes ∧
      referenceVersions digests observed = earlier ++ [versionOf digests last none] ∧
      (last.toCustomerAttributes ≠ row.toCustomerAttributes ->
        referenceVersions digests (observed ++ [row]) =
          earlier ++ [closeVersion (versionOf digests last none) row.validFrom,
            versionOf digests row none]) := by
  have lastValue :
      (Timeline.changes (fun row : SourceCustomer Digest => row.toCustomerAttributes)
        observed).getLast?.map (fun last => last.toCustomerAttributes) =
        observed.getLast?.map fun last => last.toCustomerAttributes :=
    getLast_changes observed
  rcases List.eq_nil_or_concat
      (Timeline.changes (fun row : SourceCustomer Digest => row.toCustomerAttributes)
        observed) with none | ⟨before, last, changed⟩
  · rw [none, List.getLast?_nil, Option.map_none, eq_comm, Option.map_eq_none_iff,
      List.getLast?_eq_none_iff] at lastValue
    exact absurd lastValue present
  · rw [List.concat_eq_append] at changed
    rw [changed, List.getLast?_append, List.getLast?_singleton] at lastValue
    obtain ⟨closed, isOpen, isClosed⟩ :=
      periods_append_two (fun row : SourceCustomer Digest => row.validFrom) before last row
    have isChange : last ∈ Timeline.changes
        (fun row : SourceCustomer Digest => row.toCustomerAttributes) observed := by
      simp [changed]
    refine ⟨closed.map fun version => versionOf digests version.1 version.2, last,
      (changes_sublist observed).mem isChange, lastValue.symm, ?_, ?_⟩
    · rw [referenceVersions, timeline, changed, isOpen, List.map_append]
      rfl
    · intro differs
      have isNew : observed.getLast?.map (fun last => last.toCustomerAttributes) ≠
          some row.toCustomerAttributes := by
        rw [← lastValue]
        simpa using differs
      rw [referenceVersions, timeline, changes_append, if_neg isNew, changed,
        List.append_assoc, List.singleton_append, isClosed, List.map_append]
      rfl

/-! ## Rebuilding -/

variable [DecidableEq Digest]

/-- Where the hash distinguishes, changes of the hash are changes of the
attributes. -/
theorem customerTimeline_eq
    {silver : List SilverCustomer}
    (distinguishes : Distinguishes digests silver)
    (customerId : String) :
    customerTimeline digests customerId (withHistoryColumns digests silver) =
      referenceVersions digests
        (observations customerId (withHistoryColumns digests silver)) := by
  unfold customerTimeline referenceVersions timeline
  congr 2
  apply changes_congr
  intro left leftMember right rightMember
  obtain ⟨leftSilver, leftHash, _⟩ :=
    mem_withHistoryColumns digests (mem_observations.mp leftMember).1
  obtain ⟨rightSilver, rightHash, _⟩ :=
    mem_withHistoryColumns digests (mem_observations.mp rightMember).1
  constructor
  · intro sameHash
    apply distinguishes left.toSilverCustomer leftSilver right.toSilverCustomer rightSilver
    rw [← leftHash, ← rightHash, sameHash]
  · intro sameAttributes
    rw [leftHash, rightHash, sameAttributes]

/-- A rebuild computes the reference history. -/
theorem rebuiltHistory_perm
    {silver : List SilverCustomer}
    (distinct : DistinctRows silver)
    (distinguishes : Distinguishes digests silver) :
    (rebuiltHistory digests (withHistoryColumns digests silver)).Perm
      (referenceHistory digests silver) := by
  apply (perm_referenceHistory_iff digests distinct).mpr
  intro customerId
  rw [versionsOf_rebuiltHistory digests (distinct.instants digests),
    customerTimeline_eq digests distinguishes]

/-! ## Running forward -/

/-- New rows of later instants than all the old ones. -/
structure Extends (old new : List SilverCustomer) : Prop where
  distinct : DistinctRows (old ++ new)
  distinctCustomers : (new.map fun row => row.customerId).Nodup
  newer : forall earlier, earlier ∈ old -> forall row, row ∈ new ->
    earlier.sourceBatchAt < row.sourceBatchAt

omit [DecidableEq Digest] in
theorem withHistoryColumns_append (old new : List SilverCustomer) :
    withHistoryColumns digests (old ++ new) =
      withHistoryColumns digests old ++ withHistoryColumns digests new :=
  List.map_append

theorem Extends.distinct_old
    {old new : List SilverCustomer}
    (ext : Extends old new) :
    DistinctRows old := by
  have distinct := ext.distinct
  rw [DistinctRows, List.map_append] at distinct
  exact distinct.of_append_left

omit [DecidableEq Digest] in
/-- A customer with a new row is observed once more, after all its old rows. -/
theorem Extends.observations
    {old new : List SilverCustomer}
    (ext : Extends old new)
    {row : SourceCustomer Digest}
    (member : row ∈ withHistoryColumns digests new) :
    observations row.customerId (withHistoryColumns digests (old ++ new)) =
      CustomerScd2.observations row.customerId (withHistoryColumns digests old) ++ [row] := by
  obtain ⟨rowSilver, _, rowStart⟩ := mem_withHistoryColumns digests member
  have instants := ext.distinct.instants digests
  have only : sourceRowsOf row.customerId (withHistoryColumns digests new) = [row] := by
    apply rowsOf_eq_singleton _ member
    rw [withHistoryColumns, List.map_map]
    exact ext.distinctCustomers
  rw [withHistoryColumns_append] at instants ⊢
  apply observations_append instants only
  intro earlier earlierMember
  obtain ⟨earlierSilver, _, earlierStart⟩ := mem_withHistoryColumns digests earlierMember
  rw [earlierStart, rowStart]
  exact ext.newer _ earlierSilver _ rowSilver

omit [DecidableEq Digest] in
/-- The current version of a customer in a table with known versions. -/
private theorem currentVersion_of_versions
    {table : List (HistoryRow Digest)}
    (wellFormed : WellFormed table)
    {customerId : String}
    {earlier : List (HistoryRow Digest)}
    {last : HistoryRow Digest}
    (versions : versionsOf customerId table = earlier ++ [last]) :
    currentVersion customerId table = some last := by
  rw [currentVersion, wellFormed.one_current customerId versions]
  rfl

/-- Whether a row opens a version over an open version of another row is a
question about their attributes. -/
private theorem opensVersion_eq
    {silver : List SilverCustomer}
    (distinguishes : Distinguishes digests silver)
    {table : List (HistoryRow Digest)}
    {row last : SourceCustomer Digest}
    (rowMember : row ∈ withHistoryColumns digests silver)
    (lastMember : last ∈ withHistoryColumns digests silver)
    (current : currentVersion row.customerId table = some (versionOf digests last none)) :
    opensVersion table row =
      decide (last.toCustomerAttributes ≠ row.toCustomerAttributes) := by
  obtain ⟨rowSilver, rowHash, _⟩ := mem_withHistoryColumns digests rowMember
  obtain ⟨lastSilver, lastHash, _⟩ := mem_withHistoryColumns digests lastMember
  have hashes : row.attributeHash = last.attributeHash ↔
      last.toCustomerAttributes = row.toCustomerAttributes := by
    constructor
    · intro sameHash
      rw [rowHash, lastHash] at sameHash
      exact (distinguishes _ rowSilver _ lastSilver sameHash).symm
    · intro sameAttributes
      rw [rowHash, lastHash, sameAttributes]
  rw [opensVersion, current]
  simp [versionOf, hashes]

/-- One customer after a forward step with newer rows. -/
private theorem versionsOf_forwardHistory
    {old new : List SilverCustomer}
    (ext : Extends old new)
    (distinguishes : Distinguishes digests (old ++ new))
    {table : List (HistoryRow Digest)}
    (perm : table.Perm (referenceHistory digests old))
    (accepted : Accepted (withHistoryColumns digests new) table)
    {row : SourceCustomer Digest}
    (member : row ∈ withHistoryColumns digests new) :
    versionsOf row.customerId
        (forwardHistory digests table (withHistoryColumns digests new)) =
      referenceVersions digests
        (observations row.customerId (withHistoryColumns digests old) ++ [row]) := by
  have wellFormed : WellFormed table :=
    (wellFormed_referenceHistory digests ext.distinct_old).of_perm perm.symm
  have versions :=
    (perm_referenceHistory_iff digests ext.distinct_old).mp perm row.customerId
  by_cases known : observations row.customerId (withHistoryColumns digests old) = []
  · rw [known] at versions ⊢
    have absent : currentVersion row.customerId table = none := by
      rw [currentVersion, currentVersions_of_versionsOf_eq_nil versions]
      rfl
    have changed : row ∈ (withHistoryColumns digests new).filter (opensVersion table) :=
      List.mem_filter.mpr ⟨member, by rw [opensVersion, absent]⟩
    exact versionsOf_mergedHistory_new digests accepted.distinct_changed changed versions
  · obtain ⟨earlier, last, lastObserved, lastValue, before, after⟩ :=
      referenceVersions_change digests known row
    have lastMember := (mem_observations.mp lastObserved).1
    rw [before] at versions
    have opens := opensVersion_eq digests distinguishes
      (withHistoryColumns_append digests old new ▸ List.mem_append_right _ member)
      (withHistoryColumns_append digests old new ▸ List.mem_append_left _ lastMember)
      (currentVersion_of_versions wellFormed versions)
    by_cases same : last.toCustomerAttributes = row.toCustomerAttributes
    · rw [referenceVersions_repeat digests (same ▸ lastValue), before, ← versions]
      exact versionsOf_mergedHistory_unchanged digests table
        (accepted.unchanged member (by simp [opens, same]))
    · rw [after same]
      apply versionsOf_mergedHistory_changed digests wellFormed accepted.distinct_changed
        (List.mem_filter.mpr ⟨member, by simp [opens, same]⟩) versions
      obtain ⟨rowSilver, _, rowStart⟩ := mem_withHistoryColumns digests member
      obtain ⟨lastSilver, _, lastStart⟩ := mem_withHistoryColumns digests lastMember
      change last.validFrom < row.validFrom
      rw [lastStart, rowStart]
      exact ext.newer _ lastSilver _ rowSilver

/-- A forward step with newer rows takes the reference history of the earlier
rows to the reference history of all rows. -/
theorem forwardHistory_perm
    {old new : List SilverCustomer}
    (ext : Extends old new)
    (distinguishes : Distinguishes digests (old ++ new))
    {table : List (HistoryRow Digest)}
    (perm : table.Perm (referenceHistory digests old))
    (accepted : Accepted (withHistoryColumns digests new) table) :
    (forwardHistory digests table (withHistoryColumns digests new)).Perm
      (referenceHistory digests (old ++ new)) := by
  apply (perm_referenceHistory_iff digests ext.distinct).mpr
  intro customerId
  cases rows : sourceRowsOf customerId (withHistoryColumns digests new) with
  | nil =>
      have unchanged : sourceRowsOf customerId
          ((withHistoryColumns digests new).filter (opensVersion table)) = [] :=
        List.eq_nil_of_subset_nil fun row member => by
          obtain ⟨filtered, own⟩ := mem_rowsOf.mp member
          rw [← rows]
          exact mem_rowsOf.mpr ⟨(List.mem_filter.mp filtered).1, own⟩
      have noNew : rowsOf (fun row : SourceCustomer Digest => row.customerId) customerId
          (withHistoryColumns digests new) = [] := rows
      rw [forwardHistory, versionsOf_mergedHistory_unchanged digests table unchanged,
        (perm_referenceHistory_iff digests ext.distinct_old).mp perm customerId,
        observations, observations, sourceRowsOf, sourceRowsOf,
        withHistoryColumns_append, rowsOf_append, noNew, List.append_nil]
  | cons row rest =>
      have present : row ∈ sourceRowsOf customerId (withHistoryColumns digests new) := by
        simp [rows]
      obtain ⟨member, rfl⟩ := mem_rowsOf.mp present
      rw [ext.observations digests member,
        versionsOf_forwardHistory digests ext distinguishes perm accepted member]

/-- Rows that the reference history already contains change nothing. -/
theorem forwardHistory_replay
    {old new : List SilverCustomer}
    (ext : Extends old new)
    (distinguishes : Distinguishes digests (old ++ new))
    {table : List (HistoryRow Digest)}
    (perm : table.Perm (referenceHistory digests (old ++ new))) :
    forwardHistory digests table (withHistoryColumns digests new) = table := by
  have wellFormed : WellFormed table :=
    (wellFormed_referenceHistory digests ext.distinct).of_perm perm.symm
  have settled : (withHistoryColumns digests new).filter (opensVersion table) = [] := by
    apply List.filter_eq_nil_iff.mpr
    intro row member
    have inAll : row ∈ withHistoryColumns digests (old ++ new) :=
      withHistoryColumns_append digests old new ▸ List.mem_append_right _ member
    have versions := (perm_referenceHistory_iff digests ext.distinct).mp perm row.customerId
    have observed := ext.observations digests member
    obtain ⟨earlier, last, lastObserved, lastValue, before, _⟩ :=
      referenceVersions_change digests
        (observed ▸ List.concat_ne_nil row _ :
          observations row.customerId (withHistoryColumns digests (old ++ new)) ≠ []) row
    have lastMember := (mem_observations.mp lastObserved).1
    rw [before] at versions
    rw [opensVersion_eq digests distinguishes inAll lastMember
      (currentVersion_of_versions wellFormed versions)]
    rw [observed, List.getLast?_append, List.getLast?_singleton] at lastValue
    simpa using lastValue.symm
  rw [forwardHistory, settled, mergedHistory_nil]

/-! ## Runs that reach the reference history -/

/-- What a run that may fail leaves: the reference history of all rows when it
reports success, and otherwise the table it found. -/
def Reaches
    {Report : Type}
    (silver : List SilverCustomer)
    (table : List (HistoryRow Digest))
    (execution : Execution (List (HistoryRow Digest)) JobError Report) : Prop :=
  ((Exists fun report => execution.result = .ok report) ∧
      execution.state.Perm (referenceHistory digests silver)) ∨
    ((Exists fun problem => execution.result = .error problem) ∧ execution.state = table)

/-- A forward run over newer rows reaches the reference history, whether or not
an earlier run has published them. -/
theorem forward_reaches
    {old new : List SilverCustomer}
    (ext : Extends old new)
    (distinguishes : Distinguishes digests (old ++ new))
    {table : List (HistoryRow Digest)}
    (perm : table.Perm (referenceHistory digests old) ∨
      table.Perm (referenceHistory digests (old ++ new)))
    (batchId : String) :
    Reaches digests (old ++ new) table
      (applyCustomerHistory digests new batchId table) := by
  have wellFormed : WellFormed table := by
    rcases perm with before | after
    · exact (wellFormed_referenceHistory digests ext.distinct_old).of_perm before.symm
    · exact (wellFormed_referenceHistory digests ext.distinct).of_perm after.symm
  rcases applyCustomerHistory_cases digests wellFormed new batchId with refused | accepted
  · exact Or.inr ⟨refused.failed, refused.state⟩
  · obtain ⟨report, run⟩ := applyCustomerHistory_run digests wellFormed batchId accepted
    rw [run]
    refine Or.inl ⟨⟨report, rfl⟩, ?_⟩
    rcases perm with before | after
    · exact forwardHistory_perm digests ext distinguishes before accepted
    · exact (forwardHistory_replay digests ext distinguishes after).symm ▸ after

/-- A rebuild reaches the reference history from any table. -/
theorem rebuild_reaches
    {silver : List SilverCustomer}
    (distinct : DistinctRows silver)
    (distinguishes : Distinguishes digests silver)
    (table : List (HistoryRow Digest)) :
    Reaches digests silver table (rebuildCustomerHistory digests silver table) := by
  rcases rebuildCustomerHistory_cases digests table silver with refused | accepted
  · exact Or.inr ⟨refused.failed, refused.state⟩
  · obtain ⟨report, run⟩ := rebuildCustomerHistory_run digests accepted
    rw [run]
    exact Or.inl ⟨⟨report, rfl⟩, (perm_rebuiltTable _ table).symm.trans
      (rebuiltHistory_perm digests distinct distinguishes)⟩

omit [DecidableEq Digest] in
theorem Reaches.of_perm
    {Report : Type}
    {left right : List SilverCustomer}
    {table : List (HistoryRow Digest)}
    {execution : Execution (List (HistoryRow Digest)) JobError Report}
    (reaches : Reaches digests left table execution)
    (distinct : DistinctRows left)
    (perm : left.Perm right) :
    Reaches digests right table execution := by
  rcases reaches with ⟨reports, state⟩ | failed
  · exact Or.inl ⟨reports, state.trans (referenceHistory_perm digests distinct perm)⟩
  · exact Or.inr failed

omit [DecidableEq Digest] in
theorem Reaches.map
    {Report Other : Type}
    {silver : List SilverCustomer}
    {table : List (HistoryRow Digest)}
    {job : HistoryJob Digest Report}
    (convert : Report -> Other)
    (reaches : Reaches digests silver table (job table)) :
    Reaches digests silver table
      ((job >>= fun report => pure (convert report) : HistoryJob Digest Other) table) := by
  rw [Job.bind_run, Job.continueWith]
  rcases reaches with ⟨⟨report, ok⟩, state⟩ | ⟨⟨problem, failed⟩, state⟩
  · rw [ok]
    exact Or.inl ⟨⟨convert report, rfl⟩, state⟩
  · rw [failed]
    exact Or.inr ⟨⟨problem, rfl⟩, state⟩

omit [DecidableEq Digest] in
theorem Distinguishes.mono
    {part whole : List SilverCustomer}
    (distinguishes : Distinguishes digests whole)
    (included : part ⊆ whole) :
    Distinguishes digests part :=
  fun left leftMember right rightMember =>
    distinguishes left (included leftMember) right (included rightMember)

/-- The stage in either mode reaches the reference history of the whole silver
table, where forward mode needs the selected batch to be the newest one. -/
theorem main_reaches
    {old new silver : List SilverCustomer}
    (silverPerm : silver.Perm (old ++ new))
    {batchId : String}
    (oldBatches : forall row, row ∈ old -> row.sourceBatchId ≠ some batchId)
    (newBatch : forall row, row ∈ new -> row.sourceBatchId = some batchId)
    (distinct : DistinctRows (old ++ new))
    (distinguishes : Distinguishes digests (old ++ new))
    {table : List (HistoryRow Digest)}
    (perm : table.Perm (referenceHistory digests old) ∨
      table.Perm (referenceHistory digests (old ++ new)))
    (mode : Ingestion.CustomerHistoryMode)
    (newest : mode = .forward -> Extends old new) :
    Reaches digests (old ++ new) table (main digests mode silver batchId table) := by
  cases mode with
  | rebuild =>
      have silverDistinct : DistinctRows silver :=
        (silverPerm.map _).nodup_iff.mpr distinct
      exact ((rebuild_reaches digests silverDistinct
        (distinguishes.mono digests silverPerm.subset) table).of_perm digests
          silverDistinct silverPerm).map digests HistoryReport.rebuild
  | forward =>
      have ext := newest rfl
      have selected : (silver.filter fun row =>
          sqlEq row.sourceBatchId (some batchId)).Perm new := by
        have fromOld : (old.filter fun row =>
            sqlEq row.sourceBatchId (some batchId)) = [] := by
          apply List.filter_eq_nil_iff.mpr
          intro row member
          simp [sqlEq, oldBatches row member]
        have fromNew : (new.filter fun row =>
            sqlEq row.sourceBatchId (some batchId)) = new := by
          apply List.filter_eq_self.mpr
          intro row member
          simp [newBatch row member]
        have filtered := silverPerm.filter fun row =>
          sqlEq row.sourceBatchId (some batchId)
        rwa [List.filter_append, fromOld, fromNew, List.nil_append] at filtered
      have whole : (old ++ silver.filter fun row =>
          sqlEq row.sourceBatchId (some batchId)).Perm (old ++ new) :=
        selected.append_left old
      have selectedExt : Extends old (silver.filter fun row =>
          sqlEq row.sourceBatchId (some batchId)) :=
        { distinct := (whole.map _).nodup_iff.mpr ext.distinct
          distinctCustomers := (selected.map _).nodup_iff.mpr ext.distinctCustomers
          newer := fun earlier earlierMember row member =>
            ext.newer earlier earlierMember row (selected.mem_iff.mp member) }
      have selectedPerm := perm.imp_right fun ahead =>
        ahead.trans (referenceHistory_perm digests ext.distinct whole.symm)
      exact ((forward_reaches digests selectedExt
        (distinguishes.mono digests whole.subset) selectedPerm batchId).of_perm digests
          selectedExt.distinct whole).map digests HistoryReport.forward

end CustomerScd2
end Spark
end LakehouseOps
