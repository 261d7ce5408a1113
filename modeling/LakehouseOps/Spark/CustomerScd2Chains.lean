import LakehouseOps.Library.Timeline
import LakehouseOps.Spark.CustomerScd2

/-!
# Well-formed customer histories

A history table is well formed when the versions of every customer, ordered by
`valid_from`, are contiguous half-open periods of which the last one, and only
it, is open and current. A well-formed table passes `validate_target`.
-/

namespace LakehouseOps
namespace Spark
namespace CustomerScd2

open Ingestion (Instant)
open Library Library.Table Library.Timeline

variable {Digest : Type}

/-- The versions of a customer by the start of their periods. -/
def versionsOf
    (customerId : String)
    (table : List (HistoryRow Digest)) : List (HistoryRow Digest) :=
  orderedBy HistoryRow.validFrom (rowsOf HistoryRow.customerId customerId table)

/-- The versions form one chain whose open version is the current one. -/
structure Chain (versions : List (HistoryRow Digest)) : Prop where
  contiguous : Contiguous HistoryRow.validFrom HistoryRow.validTo versions
  current : forall version, version ∈ versions ->
    version.isCurrent = version.validTo.isNone

instance (versions : List (HistoryRow Digest)) : Decidable (Chain versions) :=
  decidable_of_iff
    (Contiguous HistoryRow.validFrom HistoryRow.validTo versions ∧
      forall version, version ∈ versions ->
        version.isCurrent = version.validTo.isNone)
    ⟨fun holds => ⟨holds.1, holds.2⟩, fun chain => ⟨chain.contiguous, chain.current⟩⟩

/-- Every customer of the table has a chain of versions. -/
def WellFormed (table : List (HistoryRow Digest)) : Prop :=
  forall row, row ∈ table -> Chain (versionsOf row.customerId table)

instance (table : List (HistoryRow Digest)) : Decidable (WellFormed table) :=
  inferInstanceAs (Decidable (forall row, row ∈ table -> _))

/-! ## Chains -/

theorem versionsOf_perm (customerId : String) (table : List (HistoryRow Digest)) :
    (versionsOf customerId table).Perm
      (rowsOf HistoryRow.customerId customerId table) :=
  orderedBy_perm _ _

@[simp] theorem mem_versionsOf
    {customerId : String}
    {table : List (HistoryRow Digest)}
    {row : HistoryRow Digest} :
    row ∈ versionsOf customerId table ↔ row ∈ table ∧ row.customerId = customerId := by
  rw [(versionsOf_perm customerId table).mem_iff, mem_rowsOf]

theorem versionsOf_eq_nil_iff
    {customerId : String}
    {table : List (HistoryRow Digest)} :
    versionsOf customerId table = [] ↔
      rowsOf HistoryRow.customerId customerId table = [] := by
  constructor
  · intro none
    exact (none ▸ versionsOf_perm customerId table).nil_eq.symm
  · intro none
    exact (none ▸ versionsOf_perm customerId table).eq_nil

theorem chain_nil : Chain ([] : List (HistoryRow Digest)) :=
  ⟨contiguous_nil, by simp⟩

/-- A customer without rows has the empty chain. -/
theorem wellFormed_iff
    {table : List (HistoryRow Digest)} :
    WellFormed table ↔ forall customerId, Chain (versionsOf customerId table) := by
  constructor
  · intro wellFormed customerId
    cases rows : versionsOf customerId table with
    | nil => exact chain_nil
    | cons row rest =>
        have member : row ∈ versionsOf customerId table := by simp [rows]
        obtain ⟨inTable, rfl⟩ := mem_versionsOf.mp member
        exact rows ▸ wellFormed row inTable
  · intro chains row _
    exact chains row.customerId

/-- A chain in the rows of a customer is the list of its versions. -/
theorem versionsOf_eq_of_perm
    {customerId : String}
    {table versions : List (HistoryRow Digest)}
    (contiguous : Contiguous HistoryRow.validFrom HistoryRow.validTo versions)
    (perm : versions.Perm (rowsOf HistoryRow.customerId customerId table)) :
    versionsOf customerId table = versions :=
  orderedBy_eq_of_perm perm contiguous.strict

/-- The current version of a chain is its last one. -/
theorem Chain.only_last_current
    {earlier : List (HistoryRow Digest)}
    {last : HistoryRow Digest}
    (chain : Chain (earlier ++ [last])) :
    currentVersions (earlier ++ [last]) = [last] ∧
      forall version, version ∈ earlier -> version.isCurrent = false := by
  have lastOpen : last.validTo = none := chain.contiguous.2 last (by simp)
  have lastCurrent : last.isCurrent = true := by
    rw [chain.current last (by simp), lastOpen]
    rfl
  have earlierClosed : forall version, version ∈ earlier ->
      version.isCurrent = false := by
    intro version member
    have whole : version ∈ earlier ++ [last] := List.mem_append_left _ member
    rw [chain.current version whole, Bool.eq_false_iff]
    intro isOpen
    have isLast := (chain.contiguous.stop_eq_none_iff whole).mp
      (Option.isNone_iff_eq_none.mp isOpen)
    have ordered := (List.pairwise_append.mp chain.contiguous.strict).2.2
      version member last (by simp)
    exact absurd ordered (by simp [isLast])
  refine ⟨?_, earlierClosed⟩
  unfold currentVersions
  rw [List.filter_append, List.filter_eq_nil_iff.mpr, List.filter_cons_of_pos lastCurrent]
  · rfl
  · intro version member
    simp [earlierClosed version member]

theorem rowsOf_currentVersions
    (customerId : String)
    (table : List (HistoryRow Digest)) :
    rowsOf HistoryRow.customerId customerId (currentVersions table) =
      currentVersions (rowsOf HistoryRow.customerId customerId table) :=
  List.filter_comm _ _ _

/-- A customer of a well-formed table has exactly one current version. -/
theorem WellFormed.one_current
    {table : List (HistoryRow Digest)}
    (wellFormed : WellFormed table)
    (customerId : String)
    {earlier : List (HistoryRow Digest)}
    {last : HistoryRow Digest}
    (versions : versionsOf customerId table = earlier ++ [last]) :
    rowsOf HistoryRow.customerId customerId (currentVersions table) = [last] := by
  have chain := wellFormed_iff.mp wellFormed customerId
  rw [versions] at chain
  have perm := ((versionsOf_perm customerId table).filter HistoryRow.isCurrent).symm
  rw [versions] at perm
  have onlyLast := chain.only_last_current.1
  rw [rowsOf_currentVersions]
  unfold currentVersions at onlyLast ⊢
  rw [onlyLast] at perm
  exact List.perm_singleton.mp perm

theorem currentVersions_of_versionsOf_eq_nil
    {table : List (HistoryRow Digest)}
    {customerId : String}
    (none : versionsOf customerId table = []) :
    rowsOf HistoryRow.customerId customerId (currentVersions table) = [] := by
  rw [rowsOf_currentVersions, versionsOf_eq_nil_iff.mp none]
  rfl

/-! ## Validation -/

/-- A customer of the table has a last version. -/
theorem versionsOf_eq_append
    {table : List (HistoryRow Digest)}
    {row : HistoryRow Digest}
    (member : row ∈ table) :
    Exists fun earlier => Exists fun last =>
      versionsOf row.customerId table = earlier ++ [last] := by
  have present : versionsOf row.customerId table ≠ [] :=
    List.ne_nil_of_mem (mem_versionsOf.mpr ⟨member, rfl⟩)
  exact ⟨_, _, (List.dropLast_concat_getLast present).symm⟩

theorem invalidCurrent_eq_nil
    {table : List (HistoryRow Digest)}
    (wellFormed : WellFormed table) :
    invalidCurrent table = [] := by
  apply groupsWhere_eq_nil_iff.mpr
  intro row member
  obtain ⟨earlier, last, versions⟩ := versionsOf_eq_append member
  have one := wellFormed.one_current row.customerId versions
  rw [rowsOf_currentVersions] at one
  simp [one]

theorem invalidPeriods_eq_nil
    {table : List (HistoryRow Digest)}
    (wellFormed : WellFormed table) :
    invalidPeriods table = [] := by
  apply List.filter_eq_nil_iff.mpr
  intro row member
  have chain := wellFormed row member
  have own : row ∈ versionsOf row.customerId table := mem_versionsOf.mpr ⟨member, rfl⟩
  have current := chain.current row own
  cases stops : row.validTo with
  | none => simp [current, stops]
  | some limit =>
      have nonempty := chain.contiguous.start_lt_stop own stops
      simp [current, stops, nonempty]

theorem discontinuousPeriods_eq_nil
    {table : List (HistoryRow Digest)}
    (wellFormed : WellFormed table) :
    discontinuousPeriods table = [] := by
  unfold discontinuousPeriods windowOver
  apply List.flatMap_eq_nil_iff.mpr
  intro customerId _
  rw [List.map_eq_nil_iff, List.filter_eq_nil_iff]
  rintro ⟨previous, row⟩ member
  cases previous with
  | none => simp [sqlNe]
  | some before =>
      have contiguous := (wellFormed_iff.mp wellFormed customerId).contiguous
      have adjacent := lagFrom_of_isChain none contiguous.1 member
      simp [adjacent.1]

/-- A well-formed table passes the validation, which changes nothing. -/
theorem validateTarget_run
    {table : List (HistoryRow Digest)}
    (wellFormed : WellFormed table) :
    (validateTarget : HistoryJob Digest Unit) table =
      { commits := [], state := table, result := .ok () } := by
  unfold validateTarget
  rw [Job.read_bind_run]
  simp [Job.reject, invalidCurrent_eq_nil wellFormed, invalidPeriods_eq_nil wellFormed,
    discontinuousPeriods_eq_nil wellFormed]

theorem validateTarget_bind_run
    {Value : Type}
    {table : List (HistoryRow Digest)}
    (wellFormed : WellFormed table)
    (next : Unit -> HistoryJob Digest Value) :
    (validateTarget >>= next) table = next () table := by
  rw [Job.bind_run, validateTarget_run wellFormed]
  simp [Job.continueWith]

end CustomerScd2
end Spark
end LakehouseOps
