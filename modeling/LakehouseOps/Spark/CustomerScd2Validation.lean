import LakehouseOps.Spark.CustomerScd2Chains

/-!
# What the validation of the target accepts

The validation skips a row whose predecessor is open, so it accepts exactly the tables in
which the versions of every customer are a chain followed by contiguous closed periods.
On a table where nothing follows an open version, it accepts exactly the chains.
-/

namespace LakehouseOps
namespace Spark
namespace CustomerScd2

open Ingestion (Instant)
open Library Library.Table Library.Timeline

variable {Digest : Type}

/-- The validation returns. -/
def Accepts (table : List (HistoryRow Digest)) : Prop :=
  ((validateTarget : HistoryJob Digest Unit) table).result = .ok ()

/-- The starts differ, every version but the last is closed where the next one starts, and
the last one, and only it, is open and current. -/
structure OneChain (versions : List (HistoryRow Digest)) : Prop where
  distinct : (versions.map HistoryRow.validFrom).Nodup
  closed : forall earlier version next later,
    versions = earlier ++ version :: next :: later ->
      version.validTo = some next.validFrom ∧ version.isCurrent = false
  last : forall last, versions.getLast? = some last ->
    last.validTo = none ∧ last.isCurrent = true

/-- Contiguous periods that are all closed. -/
structure ClosedPeriods (versions : List (HistoryRow Digest)) : Prop where
  adjacent : versions.IsChain (Adjacent HistoryRow.validFrom HistoryRow.validTo)
  closed : forall version, version ∈ versions ->
    version.isCurrent = false ∧
      Exists fun limit => version.validTo = some limit ∧ version.validFrom < limit

/-- A chain, and closed periods after its open version. -/
def ChainThenClosed (versions : List (HistoryRow Digest)) : Prop :=
  Exists fun chain => Exists fun closed =>
    versions = chain ++ closed ∧ chain ≠ [] ∧ OneChain chain ∧ ClosedPeriods closed

/-- No version follows an open one. -/
def NothingFollowsOpen (versions : List (HistoryRow Digest)) : Prop :=
  forall earlier version later, versions = earlier ++ version :: later ->
    version.validTo = none -> later = []

/-! ## Chains -/

/-- A chain of ordered versions is a contiguous history. -/
theorem oneChain_iff
    {versions : List (HistoryRow Digest)}
    (ordered : versions.Pairwise fun left right => left.validFrom ≤ right.validFrom) :
    OneChain versions ↔ Chain versions := by
  constructor
  · rintro ⟨distinct, closed, last⟩
    rw [List.Nodup, List.pairwise_map] at distinct
    have strict : versions.Pairwise fun left right => left.validFrom < right.validFrom :=
      (distinct.and ordered).imp fun both => lt_of_le_of_ne both.2 both.1
    refine ⟨⟨?_, fun version isLast => (last version isLast).1⟩, fun version member => ?_⟩
    · rw [List.isChain_iff_forall_rel_of_append_cons_cons]
      intro version next earlier later split
      rw [split] at strict
      have before := (List.pairwise_append.mp strict).2.1
      exact ⟨(closed earlier version next later split).1,
        (List.pairwise_cons.mp before).1 next List.mem_cons_self⟩
    · obtain ⟨earlier, later, split⟩ := List.append_of_mem member
      cases later with
      | nil =>
          obtain ⟨isOpen, isCurrent⟩ := last version (by rw [split]; simp)
          rw [isOpen, isCurrent]
          rfl
      | cons next later =>
          obtain ⟨stops, notCurrent⟩ := closed earlier version next later split
          rw [stops, notCurrent]
          rfl
  · intro chain
    have adjacent := List.isChain_iff_forall_rel_of_append_cons_cons.mp chain.contiguous.1
    refine ⟨?_, fun earlier version next later split => ?_, fun last isLast => ?_⟩
    · rw [List.Nodup, List.pairwise_map]
      exact chain.contiguous.strict.imp fun before => ne_of_lt before
    · have stops := (adjacent split).1
      have current := chain.current version (by rw [split]; simp)
      rw [stops] at current
      exact ⟨stops, current⟩
    · have isOpen := chain.contiguous.2 last isLast
      have current := chain.current last (List.mem_of_getLast? isLast)
      rw [isOpen] at current
      exact ⟨isOpen, current⟩

theorem closedPeriods_nil : ClosedPeriods ([] : List (HistoryRow Digest)) :=
  ⟨List.isChain_nil, fun _ none => absurd none List.not_mem_nil⟩

theorem OneChain.chainThenClosed
    {versions : List (HistoryRow Digest)}
    (chain : OneChain versions)
    (present : versions ≠ []) :
    ChainThenClosed versions :=
  ⟨versions, [], (List.append_nil versions).symm, present, chain, closedPeriods_nil⟩

/-- Where nothing follows an open version, nothing follows the chain. -/
theorem ChainThenClosed.oneChain
    {versions : List (HistoryRow Digest)}
    (accepted : ChainThenClosed versions)
    (nothingFollows : NothingFollowsOpen versions) :
    OneChain versions := by
  obtain ⟨chain, closed, rfl, present, one, _⟩ := accepted
  have isLast : chain.getLast? = some (chain.getLast present) :=
    List.getLast?_eq_getLast_of_ne_nil present
  have none : closed = [] := by
    refine nothingFollows chain.dropLast (chain.getLast present) closed ?_ (one.last _ isLast).1
    rw [List.append_cons, List.dropLast_concat_getLast]
  rwa [none, List.append_nil]

theorem OneChain.nothingFollowsOpen
    {versions : List (HistoryRow Digest)}
    (chain : OneChain versions) :
    NothingFollowsOpen versions := by
  intro earlier version later split isOpen
  cases later with
  | nil => rfl
  | cons next later =>
      have stops := (chain.closed earlier version next later split).1
      rw [isOpen] at stops
      contradiction

/-! ## The validation of one customer -/

/-- What the validation asks of the versions of a customer. -/
structure AcceptedVersions (versions : List (HistoryRow Digest)) : Prop where
  one : (currentVersions versions).length = 1
  periods : forall version, version ∈ versions ->
    (forall limit, version.validTo = some limit -> version.validFrom < limit) ∧
      version.isCurrent = version.validTo.isNone
  linked : versions.IsChain fun before version =>
    forall limit, before.validTo = some limit -> limit = version.validFrom

/-- The validation accepts a chain that closed periods may follow. -/
theorem acceptedVersions_iff
    {versions : List (HistoryRow Digest)}
    (ordered : versions.Pairwise fun left right => left.validFrom ≤ right.validFrom) :
    AcceptedVersions versions ↔ ChainThenClosed versions := by
  constructor
  · rintro ⟨one, periods, linked⟩
    obtain ⟨current, isOne⟩ := List.length_eq_one_iff.mp one
    obtain ⟨earlier, later, rfl, before, isCurrent, after⟩ := List.filter_eq_cons_iff.mp isOne
    have notAfter := List.filter_eq_nil_iff.mp after
    obtain ⟨linkedEarlier, linkedRest, joint⟩ := List.isChain_append.mp linked
    have isOpen : current.validTo = none := by
      have flag := (periods current (by simp)).2
      rw [isCurrent] at flag
      exact Option.isNone_iff_eq_none.mp flag.symm
    -- Every version but the current one is closed.
    have closed : forall version, version ∈ earlier ∨ version ∈ later ->
        version.isCurrent = false ∧
          Exists fun limit => version.validTo = some limit ∧ version.validFrom < limit := by
      intro version member
      have notCurrent : version.isCurrent = false := by
        rcases member with inEarlier | inLater
        · exact Bool.eq_false_iff.mpr (before version inEarlier)
        · exact Bool.eq_false_iff.mpr (notAfter version inLater)
      have inVersions : version ∈ earlier ++ current :: later := by
        rcases member with inEarlier | inLater
        · exact List.mem_append_left _ inEarlier
        · exact List.mem_append_right _ (List.mem_cons_of_mem _ inLater)
      obtain ⟨nonempty, flag⟩ := periods version inVersions
      rw [notCurrent] at flag
      cases stops : version.validTo with
      | none =>
          rw [stops] at flag
          contradiction
      | some limit => exact ⟨notCurrent, limit, rfl, nonempty limit stops⟩
    have adjacent : forall version next, (version ∈ earlier ∨ version ∈ later) ->
        (forall limit, version.validTo = some limit -> limit = next.validFrom) ->
        Adjacent HistoryRow.validFrom HistoryRow.validTo version next := by
      intro version next member links
      obtain ⟨_, limit, stops, nonempty⟩ := closed version member
      obtain rfl := links limit stops
      exact ⟨stops, nonempty⟩
    have chain : Chain (earlier ++ [current]) := by
      refine ⟨⟨List.isChain_append.mpr ⟨?_, List.isChain_singleton _, ?_⟩, ?_⟩, ?_⟩
      · exact linkedEarlier.imp_of_mem_imp fun version next member _ links =>
          adjacent version next (Or.inl member) links
      · intro version isLast next isNext
        obtain rfl : current = next := by simpa using isNext
        exact adjacent version current (Or.inl (List.mem_of_getLast? isLast))
          (joint version isLast current (by simp))
      · intro last isLast
        obtain rfl : current = last := by simpa using isLast
        exact isOpen
      · intro version member
        apply (periods version _).2
        rw [List.append_cons]
        exact List.mem_append_left _ member
    have orderedChain : (earlier ++ [current]).Pairwise
        fun left right => left.validFrom ≤ right.validFrom := by
      rw [List.append_cons] at ordered
      exact (List.pairwise_append.mp ordered).1
    refine ⟨earlier ++ [current], later, List.append_cons .., by simp,
      (oneChain_iff orderedChain).mpr chain, ?_, fun version member => closed version (Or.inr member)⟩
    exact linkedRest.tail.imp_of_mem_imp fun version next member _ links =>
      adjacent version next (Or.inr member) links
  · rintro ⟨whole, later, rfl, present, one, closed⟩
    have orderedChain := (List.pairwise_append.mp ordered).1
    have chain := (oneChain_iff orderedChain).mp one
    obtain ⟨earlier, last, rfl⟩ : Exists fun earlier => Exists fun last =>
        whole = earlier ++ [last] :=
      ⟨_, _, (List.dropLast_concat_getLast present).symm⟩
    have noneCurrent : currentVersions later = [] :=
      List.filter_eq_nil_iff.mpr fun version member => by simp [(closed.closed version member).1]
    refine ⟨?_, fun version member => ?_, List.isChain_append.mpr ⟨?_, ?_, ?_⟩⟩
    · unfold currentVersions at noneCurrent ⊢
      rw [List.filter_append, noneCurrent, List.append_nil]
      exact congrArg List.length chain.only_last_current.1
    · rcases List.mem_append.mp member with inChain | inLater
      · exact ⟨fun limit stops => chain.contiguous.start_lt_stop inChain stops,
          chain.current version inChain⟩
      · obtain ⟨notCurrent, limit, stops, nonempty⟩ := closed.closed version inLater
        refine ⟨fun other isOther => ?_, by rw [notCurrent, stops]; rfl⟩
        rwa [← Option.some.inj (stops.symm.trans isOther)]
    · exact chain.contiguous.1.imp fun version next adjacent limit stops =>
        Option.some.inj (stops.symm.trans adjacent.1)
    · exact closed.adjacent.imp fun version next adjacent limit stops =>
        Option.some.inj (stops.symm.trans adjacent.1)
    · intro version isLast next _ limit stops
      rw [chain.contiguous.2 version isLast] at stops
      contradiction

/-! ## The validation of the table -/

theorem versionsOf_ordered (customerId : String) (table : List (HistoryRow Digest)) :
    (versionsOf customerId table).Pairwise fun left right =>
      left.validFrom ≤ right.validFrom :=
  orderedBy_pairwise _ _

theorem accepts_iff_checks {table : List (HistoryRow Digest)} :
    Accepts table ↔
      invalidCurrent table = [] ∧ invalidPeriods table = [] ∧ discontinuousPeriods table = [] := by
  unfold Accepts validateTarget
  rw [Job.read_bind_run, Job.reject]
  by_cases failed : invalidCurrent table ≠ [] ∨ invalidPeriods table ≠ [] ∨
      discontinuousPeriods table ≠ []
  · rw [if_pos failed]
    simp only [Job.fail_run, reduceCtorEq, false_iff]
    tauto
  · rw [if_neg failed]
    simp only [Job.pure_run, true_iff]
    tauto

theorem invalidCurrent_eq_nil_iff {table : List (HistoryRow Digest)} :
    invalidCurrent table = [] ↔ forall row, row ∈ table ->
      (currentVersions (versionsOf row.customerId table)).length = 1 := by
  unfold invalidCurrent
  rw [groupsWhere_eq_nil_iff]
  refine forall₂_congr fun row _ => ?_
  have perm := (versionsOf_perm row.customerId table).filter HistoryRow.isCurrent
  rw [decide_eq_false_iff_not, not_not]
  unfold currentVersions
  rw [perm.length_eq]

theorem invalidPeriods_eq_nil_iff {table : List (HistoryRow Digest)} :
    invalidPeriods table = [] ↔ forall row, row ∈ table ->
      (forall limit, row.validTo = some limit -> row.validFrom < limit) ∧
        row.isCurrent = row.validTo.isNone := by
  unfold invalidPeriods
  rw [List.filter_eq_nil_iff]
  refine forall₂_congr fun row _ => ?_
  cases stops : row.validTo with
  | none => cases row.isCurrent <;> simp
  | some limit => cases row.isCurrent <;> simp

theorem discontinuousPeriods_eq_nil_iff {table : List (HistoryRow Digest)} :
    discontinuousPeriods table = [] ↔ forall row, row ∈ table ->
      (versionsOf row.customerId table).IsChain fun before version =>
        forall limit, before.validTo = some limit -> limit = version.validFrom := by
  have linked : forall before version : HistoryRow Digest,
      sqlNe before.validTo (some version.validFrom) = false ↔
        forall limit, before.validTo = some limit -> limit = version.validFrom := by
    intro before version
    cases before.validTo <;> simp [sqlNe]
  unfold discontinuousPeriods windowOver
  simp only [List.flatMap_eq_nil_iff, List.map_eq_nil_iff]
  have perKey : forall customerId, (lag (orderedBy HistoryRow.validFrom
      (rowsOf HistoryRow.customerId customerId table))).filter (fun step =>
        sqlNe (step.1.bind HistoryRow.validTo) (some step.2.validFrom)) = [] ↔
      (versionsOf customerId table).IsChain fun before version =>
        forall limit, before.validTo = some limit -> limit = version.validFrom := by
    intro customerId
    rw [filter_lag_eq_nil_iff (fun row => rfl)]
    exact List.IsChain.iff linked
  simp only [perKey, mem_keys]
  constructor
  · intro all row member
    exact all row.customerId ⟨row, member, rfl⟩
  · rintro all _ ⟨row, member, rfl⟩
    exact all row member

/-- The validation accepts the tables whose customers have a chain that closed periods may
follow. -/
theorem accepts_iff {table : List (HistoryRow Digest)} :
    Accepts table ↔
      forall row, row ∈ table -> ChainThenClosed (versionsOf row.customerId table) := by
  rw [accepts_iff_checks, invalidCurrent_eq_nil_iff, invalidPeriods_eq_nil_iff,
    discontinuousPeriods_eq_nil_iff]
  constructor
  · rintro ⟨one, periods, linked⟩ row member
    refine (acceptedVersions_iff (versionsOf_ordered _ _)).mp
      ⟨one row member, fun version inVersions => ?_, linked row member⟩
    exact periods version (mem_versionsOf.mp inVersions).1
  · intro all
    have accepted : forall row, row ∈ table -> AcceptedVersions (versionsOf row.customerId table) :=
      fun row member => (acceptedVersions_iff (versionsOf_ordered _ _)).mpr (all row member)
    refine ⟨fun row member => (accepted row member).one, fun row member => ?_,
      fun row member => (accepted row member).linked⟩
    exact (accepted row member).periods row (mem_versionsOf.mpr ⟨member, rfl⟩)

/-- The validation is exact for a table unless all of its customers have a chain that closed
periods may follow and some customer has such periods. -/
theorem validation_exact_iff (table : List (HistoryRow Digest)) :
    (Accepts table ↔ forall row, row ∈ table -> OneChain (versionsOf row.customerId table)) ↔
      ((forall row, row ∈ table -> ChainThenClosed (versionsOf row.customerId table)) ->
        forall row, row ∈ table -> NothingFollowsOpen (versionsOf row.customerId table)) := by
  have present : forall row, row ∈ table -> versionsOf row.customerId table ≠ [] :=
    fun row member => List.ne_nil_of_mem (mem_versionsOf.mpr ⟨member, rfl⟩)
  rw [accepts_iff]
  constructor
  · intro exact all row member
    exact (exact.mp all row member).nothingFollowsOpen
  · intro condition
    constructor
    · intro all row member
      exact (all row member).oneChain (condition all row member)
    · intro chains row member
      exact (chains row member).chainThenClosed (present row member)

/-- A customer whose current version started before a closed one. -/
def overtakenCustomer : List (HistoryRow Nat) :=
  [{ fullName := some "Ada", email := none, emailIsMissing := some true, registeredAt := some 0,
     customerVersionId := some 1, customerId := "C1", attributeHash := some 1,
     sourceBatchId := some "b1", validFrom := 1, validTo := none, isCurrent := true },
   { fullName := some "Eda", email := none, emailIsMissing := some true, registeredAt := some 0,
     customerVersionId := some 2, customerId := "C1", attributeHash := some 2,
     sourceBatchId := some "b2", validFrom := 5, validTo := some 7, isCurrent := false }]

theorem overtaken_customer_accepted :
    ¬(Accepts overtakenCustomer ↔ forall row, row ∈ overtakenCustomer ->
      OneChain (versionsOf row.customerId overtakenCustomer)) := by
  intro exact
  have accepted : Accepts overtakenCustomer :=
    accepts_iff_checks.mpr ⟨by decide, by decide, by decide⟩
  have chain := exact.mp accepted _ List.mem_cons_self
  exact absurd (chain.closed [] _ _ [] rfl).1 (by decide)

end CustomerScd2
end Spark
end LakehouseOps
