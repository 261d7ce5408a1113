import LakehouseOps.Library.Datetime
import LakehouseOps.Library.Fallible
import LakehouseOps.Library.Job
import LakehouseOps.Library.Machine
import LakehouseOps.Library.Table

/-!
# The current commerce mart

The mart is one table that holds the daily rows of one snapshot with the identity of the
snapshot in every row. A publication creates the table, replaces it, or leaves it as it
is, by the instants of the two snapshots.
-/

namespace LakehouseOps
namespace Spark
namespace GoldCommerceCurrent

open Library Library.Table

/-! ## Snapshots -/

structure SnapshotIdentity where
  batchId : String
  batchAt : String
  manifestSha256 : String
  deriving DecidableEq

/-- A daily row. The measures are the other columns of the daily summary. -/
structure DailyRow (Measures : Type) where
  sourceBatchId : Option String
  orderDay : Option Int
  measures : Measures
  deriving DecidableEq

/-- A row of the mart. -/
structure MartRow (Measures : Type) where
  daily : DailyRow Measures
  sourceBatchAt : String
  sourceManifestSha256 : String
  deriving DecidableEq

/-- The values of `IDENTITY_COLUMNS` in a row. -/
structure IdentityColumns where
  sourceBatchId : Option String
  sourceBatchAt : String
  sourceManifestSha256 : String
  deriving DecidableEq

/-- The columns that carry an identity. -/
def SnapshotIdentity.columns (identity : SnapshotIdentity) : IdentityColumns where
  sourceBatchId := some identity.batchId
  sourceBatchAt := identity.batchAt
  sourceManifestSha256 := identity.manifestSha256

@[simp] theorem SnapshotIdentity.columns_sourceBatchAt (identity : SnapshotIdentity) :
    identity.columns.sourceBatchAt = identity.batchAt := rfl

@[simp] theorem SnapshotIdentity.columns_eq_iff {left right : SnapshotIdentity} :
    left.columns = right.columns ↔ left = right := by
  cases left
  cases right
  simp [columns]

variable {Measures : Type}

def MartRow.identity (row : MartRow Measures) : IdentityColumns where
  sourceBatchId := row.daily.sourceBatchId
  sourceBatchAt := row.sourceBatchAt
  sourceManifestSha256 := row.sourceManifestSha256

/-- The table, where it exists. -/
abbrev Mart (Measures : Type) := Option (List (MartRow Measures))

inductive SnapshotAction
  | create
  | stale
  | replay
  | replace
  deriving DecidableEq

/-- `snapshot_action`, over `datetime.fromisoformat`. -/
def snapshotAction
    (fromisoformat : String -> Option Datetime)
    (current : Option IdentityColumns)
    (incoming : SnapshotIdentity) : Except String SnapshotAction :=
  match current with
  | none => .ok .create
  | some current =>
      match fromisoformat current.sourceBatchAt, fromisoformat incoming.batchAt with
      | some currentAt, some incomingAt =>
          match incomingAt.lessThan currentAt with
          | none => .error "can't compare offset-naive and offset-aware datetimes"
          | some true => .ok .stale
          | some false =>
              if incomingAt.same currentAt then
                if incoming.columns ≠ current then
                  .error "conflicting snapshot identity at the current timestamp"
                else .ok .replay
              else .ok .replace
      | _, _ => .error "Invalid isoformat string"

/-! ## Publication -/

/-- What a publication returns. -/
inductive PublishReport
  | ignoredStale
  | ready (action : SnapshotAction) (days : Nat)
  deriving DecidableEq

/-- The rows of a candidate. -/
def candidateRows (identity : SnapshotIdentity) (daily : List (DailyRow Measures)) :
    List (MartRow Measures) :=
  daily.map fun row =>
    { daily := row, sourceBatchAt := identity.batchAt,
      sourceManifestSha256 := identity.manifestSha256 }

/-- No row, or a row that is not of the snapshot. -/
def emptyOrMixed (identity : SnapshotIdentity) (candidate : List (MartRow Measures)) : Bool :=
  candidate.isEmpty || candidate.any fun row =>
    row.daily.orderDay.isNone || row.daily.sourceBatchId.isNone ||
      sqlNe row.daily.sourceBatchId (some identity.batchId)

/-- A day with more than one row. -/
def repeatedDays (candidate : List (MartRow Measures)) : List (Option Int) :=
  groupsWhere (fun row => row.daily.orderDay) (fun group => group.length ≠ 1) candidate

/-- The identity of the table. -/
def currentIdentity : Mart Measures -> Except String (Option IdentityColumns)
  | none => .ok none
  | some target =>
      match keys MartRow.identity target with
      | [identity] => .ok (some identity)
      | _ => .error "current mart has missing or mixed snapshot identities"

variable [DecidableEq Measures]

/-- `candidate.exceptAll(target)` or `target.exceptAll(candidate)` has a row. -/
def differs (candidate : List (MartRow Measures)) (mart : Mart Measures) : Bool :=
  !(exceptAll candidate (mart.getD [])).isEmpty || !(exceptAll (mart.getD []) candidate).isEmpty

/-- The end of a publication. -/
def confirm (candidate : List (MartRow Measures)) (action : SnapshotAction) :
    Job (Mart Measures) String PublishReport := do
  let mart <- Job.read
  Job.reject (differs candidate mart) "current snapshot publication post-condition failed"
  return .ready action (mart.getD []).length

/-- `publish_snapshot` -/
def publishSnapshot
    (fromisoformat : String -> Option Datetime)
    (identity : SnapshotIdentity)
    (daily : List (DailyRow Measures)) : Job (Mart Measures) String PublishReport := do
  let candidate := candidateRows identity daily
  Job.reject (emptyOrMixed identity candidate)
    "current mart requires nonempty daily rows from the selected snapshot"
  Job.reject (repeatedDays candidate ≠ []) "current mart requires one row per order day"
  let mart <- Job.read
  let current <- Job.attempt (currentIdentity mart)
  let action <- Job.attempt (snapshotAction fromisoformat current identity)
  match action with
  | .stale => return .ignoredStale
  | .replay =>
      Job.reject (differs candidate mart) "replayed snapshot differs from the current mart"
      confirm candidate .replay
  | .create =>
      Job.commit fun _ => some candidate
      confirm candidate .create
  | .replace =>
      Job.commit fun _ => some candidate
      confirm candidate .replace

/-! ## What a publication does -/

theorem differs_eq_false_iff {candidate : List (MartRow Measures)} {mart : Mart Measures} :
    differs candidate mart = false ↔ candidate.Perm (mart.getD []) := by
  rw [← exceptAll_both_eq_nil_iff]
  simp [differs]

theorem confirm_run
    {candidate : List (MartRow Measures)}
    {mart : Mart Measures}
    (same : differs candidate mart = false)
    (action : SnapshotAction) :
    confirm candidate action mart =
      { commits := [], state := mart, result := .ok (.ready action (mart.getD []).length) } := by
  unfold confirm
  rw [Job.read_bind_run, Job.reject_bind_run_of_not (by simp [same])]
  rfl

/-- What a publication decides before it writes. -/
def decision
    (fromisoformat : String -> Option Datetime)
    (identity : SnapshotIdentity)
    (candidate : List (MartRow Measures))
    (mart : Mart Measures) : Except String SnapshotAction := do
  Fallible.reject (emptyOrMixed identity candidate)
    "current mart requires nonempty daily rows from the selected snapshot"
  Fallible.reject (repeatedDays candidate ≠ []) "current mart requires one row per order day"
  let current <- currentIdentity mart
  let action <- snapshotAction fromisoformat current identity
  Fallible.reject (action = .replay ∧ differs candidate mart)
    "replayed snapshot differs from the current mart"
  return action

/-- What a publication leaves behind, once it has decided. -/
def carryOut (candidate : List (MartRow Measures)) (mart : Mart Measures) :
    Except String SnapshotAction -> Execution (Mart Measures) String PublishReport
  | .error problem => { commits := [], state := mart, result := .error problem }
  | .ok .stale => { commits := [], state := mart, result := .ok .ignoredStale }
  | .ok .replay =>
      { commits := [], state := mart, result := .ok (.ready .replay (mart.getD []).length) }
  | .ok action =>
      { commits := [some candidate], state := some candidate,
        result := .ok (.ready action candidate.length) }

theorem publishSnapshot_run
    (fromisoformat : String -> Option Datetime)
    (identity : SnapshotIdentity)
    (daily : List (DailyRow Measures))
    (mart : Mart Measures) :
    publishSnapshot fromisoformat identity daily mart =
      carryOut (candidateRows identity daily) mart
        (decision fromisoformat identity (candidateRows identity daily) mart) := by
  have written : forall candidate : List (MartRow Measures),
      differs candidate (some candidate) = false :=
    fun candidate => differs_eq_false_iff.mpr (List.Perm.refl candidate)
  unfold publishSnapshot decision
  generalize candidateRows identity daily = candidate
  by_cases mixed : emptyOrMixed identity candidate = true
  · rw [Job.reject_bind_run_of mixed, Fallible.reject, if_pos mixed]
    rfl
  rw [Job.reject_bind_run_of_not mixed, Fallible.reject, if_neg mixed]
  by_cases repeated : repeatedDays candidate ≠ []
  · rw [Job.reject_bind_run_of repeated, Fallible.reject, if_pos repeated]
    rfl
  rw [Job.reject_bind_run_of_not repeated, Fallible.reject, if_neg repeated,
    Job.read_bind_run]
  cases currentIdentity mart with
  | error problem => rfl
  | ok current =>
      simp only [Job.attempt, Job.pure_bind_run, Fallible.ok_bind]
      generalize snapshotAction fromisoformat current identity = decided
      cases decided with
      | error problem => rfl
      | ok action =>
          rw [Fallible.ok_bind, Job.pure_bind_run]
          cases action <;> dsimp only
          case stale => rfl
          case replay =>
            by_cases differ : differs candidate mart = true
            · rw [Fallible.reject, if_pos ⟨rfl, differ⟩, Job.reject_bind_run_of differ]
              rfl
            · rw [Fallible.reject, if_neg fun both => differ both.2,
                Job.reject_bind_run_of_not differ, confirm_run (by simpa using differ)]
              rfl
          all_goals
            rw [Fallible.reject, if_neg fun both => SnapshotAction.noConfusion both.1,
              Job.commit_bind_run, confirm_run (written candidate)]
            rfl

/-! ## Snapshots in order -/

/-- A snapshot as a caller passes it. -/
structure Snapshot (Measures : Type) where
  identity : SnapshotIdentity
  daily : List (DailyRow Measures)

/-- The rows of the mart after the snapshot was published. -/
def Snapshot.rows (snapshot : Snapshot Measures) : List (MartRow Measures) :=
  candidateRows snapshot.identity snapshot.daily

/-- The rows are there, are of the snapshot, and have a day each. -/
structure Snapshot.Valid (snapshot : Snapshot Measures) : Prop where
  nonempty : snapshot.daily ≠ []
  ofSnapshot : forall row, row ∈ snapshot.daily ->
    row.sourceBatchId = some snapshot.identity.batchId
  dated : forall row, row ∈ snapshot.daily -> row.orderDay.isSome = true
  days : (snapshot.daily.map DailyRow.orderDay).Nodup

/-- Two calls with the same snapshot; tables have no order. -/
structure Snapshot.SameAs (left right : Snapshot Measures) : Prop where
  identity : left.identity = right.identity
  daily : left.daily.Perm right.daily

/-- The first identity has the smaller instant. -/
def Earlier (fromisoformat : String -> Option Datetime) (left right : SnapshotIdentity) : Prop :=
  Exists fun leftAt => Exists fun rightAt =>
    fromisoformat left.batchAt = some leftAt ∧ fromisoformat right.batchAt = some rightAt ∧
      leftAt.Before rightAt

/-- The two identities have one instant. -/
def SameInstant (fromisoformat : String -> Option Datetime) (left right : SnapshotIdentity) :
    Prop :=
  Exists fun leftAt => Exists fun rightAt =>
    fromisoformat left.batchAt = some leftAt ∧ fromisoformat right.batchAt = some rightAt ∧
      leftAt.same rightAt = true

/-- The mart has exactly the rows of the snapshot, with its identity. -/
structure Holds (mart : Mart Measures) (snapshot : Snapshot Measures) : Prop where
  rows : Exists fun rows => mart = some rows ∧ rows.Perm snapshot.rows
  valid : snapshot.Valid

variable {fromisoformat : String -> Option Datetime}

omit [DecidableEq Measures] in
theorem emptyOrMixed_eq_false_iff {snapshot : Snapshot Measures} :
    emptyOrMixed snapshot.identity snapshot.rows = false ↔
      snapshot.daily ≠ [] ∧ forall row, row ∈ snapshot.daily ->
        row.sourceBatchId = some snapshot.identity.batchId ∧ row.orderDay.isSome = true := by
  simp only [emptyOrMixed, Snapshot.rows, candidateRows, Bool.or_eq_false_iff,
    List.isEmpty_eq_false_iff, ne_eq, List.map_eq_nil_iff, List.any_eq_false, List.mem_map,
    forall_exists_index, and_imp, forall_apply_eq_imp_iff₂]
  refine and_congr_right fun _ => forall_congr' fun row => imp_congr_right fun _ => ?_
  cases row.orderDay with
  | none => simp
  | some day =>
      cases row.sourceBatchId with
      | none => simp
      | some batchId => simp

omit [DecidableEq Measures] in
/-- A group of a key that occurs has a row, so the days are checked for repetition. -/
theorem repeatedDays_eq_nil_iff {candidate : List (MartRow Measures)} :
    repeatedDays candidate = [] ↔
      (candidate.map fun row => row.daily.orderDay).Nodup := by
  rw [← groupsWhere_repeated_eq_nil_iff, repeatedDays, groupsWhere_eq_nil_iff,
    groupsWhere_eq_nil_iff]
  refine forall_congr' fun row => imp_congr_right fun member => ?_
  have present : row ∈ rowsOf (fun row => row.daily.orderDay) row.daily.orderDay candidate :=
    mem_rowsOf.mpr ⟨member, rfl⟩
  have positive := List.length_pos_of_mem present
  rw [decide_eq_false_iff_not, decide_eq_false_iff_not]
  omega

omit [DecidableEq Measures] in
theorem valid_iff {snapshot : Snapshot Measures} :
    snapshot.Valid ↔ emptyOrMixed snapshot.identity snapshot.rows = false ∧
      repeatedDays snapshot.rows = [] := by
  have days : (snapshot.rows.map fun row => row.daily.orderDay) =
      snapshot.daily.map DailyRow.orderDay := by
    rw [Snapshot.rows, candidateRows, List.map_map]
    rfl
  rw [emptyOrMixed_eq_false_iff, repeatedDays_eq_nil_iff, days]
  constructor
  · rintro ⟨nonempty, ofSnapshot, dated, distinct⟩
    exact ⟨⟨nonempty, fun row member => ⟨ofSnapshot row member, dated row member⟩⟩, distinct⟩
  · rintro ⟨⟨nonempty, both⟩, distinct⟩
    exact ⟨nonempty, fun row member => (both row member).1, fun row member => (both row member).2,
      distinct⟩

omit [DecidableEq Measures] in
/-- The identity that the mart shows is that of the snapshot it holds. -/
theorem Holds.currentIdentity_eq
    {mart : Mart Measures}
    {snapshot : Snapshot Measures}
    (holds : Holds mart snapshot) :
    currentIdentity mart = .ok (some snapshot.identity.columns) := by
  obtain ⟨⟨rows, rfl, perm⟩, valid⟩ := holds
  have identities : rows.map MartRow.identity =
      List.replicate rows.length snapshot.identity.columns := by
    rw [List.eq_replicate_iff, List.length_map]
    refine ⟨rfl, fun identity member => ?_⟩
    obtain ⟨row, isRow, rfl⟩ := List.mem_map.mp member
    obtain ⟨daily, isDaily, rfl⟩ := List.mem_map.mp (perm.mem_iff.mp isRow)
    simp [MartRow.identity, SnapshotIdentity.columns, valid.ofSnapshot daily isDaily]
  have nonempty : rows.length ≠ 0 := by
    rw [perm.length_eq, Snapshot.rows, candidateRows, List.length_map]
    exact fun none => valid.nonempty (List.length_eq_zero_iff.mp none)
  have single : keys MartRow.identity rows = [snapshot.identity.columns] := by
    rw [keys, identities, List.replicate_dedup nonempty]
  simp only [currentIdentity, single]

theorem Earlier.trans
    {first second third : SnapshotIdentity}
    (firstSecond : Earlier fromisoformat first second)
    (secondThird : Earlier fromisoformat second third) :
    Earlier fromisoformat first third := by
  obtain ⟨firstAt, secondAt, isFirst, isSecond, before⟩ := firstSecond
  obtain ⟨middleAt, thirdAt, isMiddle, isThird, after⟩ := secondThird
  have same : secondAt = middleAt := Option.some.inj (isSecond.symm.trans isMiddle)
  subst same
  exact ⟨firstAt, thirdAt, isFirst, isThird, before.trans after⟩

theorem not_earlier_self (identity : SnapshotIdentity) :
    ¬Earlier fromisoformat identity identity := by
  rintro ⟨leftAt, rightAt, isLeft, isRight, before⟩
  have same : leftAt = rightAt := Option.some.inj (isLeft.symm.trans isRight)
  subst same
  exact Datetime.not_before_self leftAt before

/-! ## The action of a snapshot on a mart that holds another -/

/-- What an action says about the two snapshots. -/
theorem snapshotAction_cases
    {current incoming : SnapshotIdentity}
    {action : SnapshotAction}
    (decided : snapshotAction fromisoformat (some current.columns) incoming = .ok action) :
    (action = .stale ∧ Earlier fromisoformat incoming current) ∨
      (action = .replay ∧ incoming = current) ∨
      (action = .replace ∧ Earlier fromisoformat current incoming) := by
  simp only [snapshotAction, SnapshotIdentity.columns_sourceBatchAt,
    SnapshotIdentity.columns_eq_iff, ne_eq] at decided
  split at decided
  · next currentAt incomingAt isCurrent isIncoming =>
      split at decided
      · contradiction
      · next before =>
          injection decided with isAction
          exact Or.inl ⟨isAction.symm, incomingAt, currentAt, isIncoming, isCurrent, before⟩
      · next notBefore =>
          split at decided
          · split at decided
            · contradiction
            · next same =>
                injection decided with isAction
                exact Or.inr (Or.inl ⟨isAction.symm, not_not.mp same⟩)
          · next differ =>
              injection decided with isAction
              have after := Datetime.lessThan_trichotomy notBefore (by simpa using differ)
              exact Or.inr (Or.inr ⟨isAction.symm, currentAt, incomingAt, isCurrent, isIncoming,
                after⟩)
  · contradiction

/-- The action of the identity that the mart has. -/
theorem snapshotAction_of_same
    {identity : SnapshotIdentity}
    {action : SnapshotAction}
    (decided : snapshotAction fromisoformat (some identity.columns) identity = .ok action) :
    action = .replay := by
  rcases snapshotAction_cases decided with ⟨_, earlier⟩ | ⟨isReplay, _⟩ | ⟨_, later⟩
  · exact absurd earlier (not_earlier_self identity)
  · exact isReplay
  · exact absurd later (not_earlier_self identity)

theorem snapshotAction_of_earlier
    {current incoming : SnapshotIdentity}
    (earlier : Earlier fromisoformat incoming current) :
    snapshotAction fromisoformat (some current.columns) incoming = .ok .stale := by
  obtain ⟨incomingAt, currentAt, isIncoming, isCurrent, before⟩ := earlier
  have compared : incomingAt.lessThan currentAt = some true := before
  simp [snapshotAction, isIncoming, isCurrent, compared]

theorem snapshotAction_of_later
    {current incoming : SnapshotIdentity}
    (later : Earlier fromisoformat current incoming) :
    snapshotAction fromisoformat (some current.columns) incoming = .ok .replace := by
  obtain ⟨currentAt, incomingAt, isCurrent, isIncoming, before⟩ := later
  obtain ⟨kinds, less⟩ := Datetime.before_iff.mp before
  have compared : incomingAt.lessThan currentAt = some false := by
    simp [Datetime.lessThan, kinds, Int.le_of_lt less]
  have differ : incomingAt.same currentAt = false := by
    simp [Datetime.same, kinds, Int.ne_of_gt less]
  simp [snapshotAction, isIncoming, isCurrent, compared, differ]

theorem snapshotAction_of_same_instant
    {current incoming : SnapshotIdentity}
    (same : SameInstant fromisoformat incoming current) :
    snapshotAction fromisoformat (some current.columns) incoming =
      if incoming = current then .ok .replay
      else .error "conflicting snapshot identity at the current timestamp" := by
  obtain ⟨incomingAt, currentAt, isIncoming, isCurrent, sameTime⟩ := same
  have equal : incomingAt.aware = currentAt.aware ∧ incomingAt.time = currentAt.time := by
    simpa [Datetime.same] using sameTime
  have compared : incomingAt.lessThan currentAt = some false := by
    simp [Datetime.lessThan, equal]
  simp only [snapshotAction, SnapshotIdentity.columns_sourceBatchAt, isIncoming, isCurrent,
    compared, sameTime, SnapshotIdentity.columns_eq_iff, ne_eq, ite_not, if_true]

/-! ## Decisions -/

theorem decision_eq_ok_iff
    {snapshot : Snapshot Measures}
    {mart : Mart Measures}
    {current : Option IdentityColumns}
    (isCurrent : currentIdentity mart = .ok current)
    {action : SnapshotAction} :
    decision fromisoformat snapshot.identity snapshot.rows mart = .ok action ↔
      snapshot.Valid ∧ snapshotAction fromisoformat current snapshot.identity = .ok action ∧
        (action = .replay -> snapshot.rows.Perm (mart.getD [])) := by
  rw [valid_iff]
  unfold decision
  simp only [Fallible.bind_eq_ok_iff, Fallible.reject_eq_ok_iff, isCurrent, ne_eq, not_not,
    Bool.not_eq_true, Except.ok.injEq, not_and]
  constructor
  · rintro ⟨_, matching, _, days, _, rfl, decided, isDecided, _, same, returned⟩
    injection returned with sameAction
    subst sameAction
    exact ⟨⟨matching, days⟩, isDecided,
      fun isReplay => differs_eq_false_iff.mp (by simpa using same isReplay)⟩
  · rintro ⟨⟨matching, days⟩, isDecided, same⟩
    exact ⟨(), matching, (), days, current, rfl, action, isDecided, (),
      fun isReplay => by simpa using differs_eq_false_iff.mpr (same isReplay), rfl⟩

/-- A decision that is no action leaves the mart alone. -/
theorem refused_of_no_action
    {snapshot : Snapshot Measures}
    {mart : Mart Measures}
    (none : forall action,
      decision fromisoformat snapshot.identity snapshot.rows mart ≠ .ok action) :
    Job.Refused mart (publishSnapshot fromisoformat snapshot.identity snapshot.daily mart) := by
  rw [publishSnapshot_run]
  change Job.Refused mart (carryOut snapshot.rows mart
    (decision fromisoformat snapshot.identity snapshot.rows mart))
  cases decided : decision fromisoformat snapshot.identity snapshot.rows mart with
  | error problem => exact ⟨rfl, rfl, problem, rfl⟩
  | ok action => exact absurd decided (none action)

theorem publishSnapshot_of_decision
    {snapshot : Snapshot Measures}
    {mart : Mart Measures}
    {action : SnapshotAction}
    (decided : decision fromisoformat snapshot.identity snapshot.rows mart = .ok action) :
    publishSnapshot fromisoformat snapshot.identity snapshot.daily mart =
      carryOut snapshot.rows mart (.ok action) := by
  rw [publishSnapshot_run, ← decided]
  rfl

/-! ## Calls -/

/-- The mart, and the snapshots that were published so far. -/
structure Publications (Measures : Type) where
  mart : Mart Measures
  published : List (Snapshot Measures)

/-- A call that runs to its end, or one that is cut off, perhaps after its commit. -/
inductive PublishEvent (Measures : Type)
  | publish (snapshot : Snapshot Measures)
  | interrupt (snapshot : Snapshot Measures) (committed : Bool)

/-- A snapshot is published when its call returns or its commit is done. -/
def Publications.step
    (fromisoformat : String -> Option Datetime)
    (state : Publications Measures) : PublishEvent Measures -> Publications Measures
  | .publish snapshot =>
      let execution := publishSnapshot fromisoformat snapshot.identity snapshot.daily state.mart
      match execution.result with
      | .ok _ => { mart := execution.state, published := snapshot :: state.published }
      | .error _ => { state with mart := execution.state }
  | .interrupt snapshot committed =>
      let execution := publishSnapshot fromisoformat snapshot.identity snapshot.daily state.mart
      match execution.commits, committed with
      | mart :: _, true => { mart, published := snapshot :: state.published }
      | _, _ => state

/-- Publications, from a catalog without the table. -/
def publications (fromisoformat : String -> Option Datetime) :
    Machine (Publications Measures) (PublishEvent Measures) where
  initial := { mart := none, published := [] }
  step := Publications.step fromisoformat

/-- The mart has the snapshot with the greatest instant. -/
def Latest (fromisoformat : String -> Option Datetime) (state : Publications Measures) : Prop :=
  (state.mart = none ∧ state.published = []) ∨
    Exists fun current => current ∈ state.published ∧ Holds state.mart current ∧
      forall other, other ∈ state.published ->
        other.SameAs current ∨ Earlier fromisoformat other.identity current.identity

omit [DecidableEq Measures] in
/-- A snapshot whose rows are those of the mart is the one that it holds. -/
theorem Holds.sameAs
    {mart : Mart Measures}
    {current snapshot : Snapshot Measures}
    (holds : Holds mart current)
    (identity : snapshot.identity = current.identity)
    (rows : snapshot.rows.Perm (mart.getD [])) :
    snapshot.SameAs current := by
  obtain ⟨⟨stored, rfl, perm⟩, _⟩ := holds
  have daily := (rows.trans perm).map MartRow.daily
  simp only [Snapshot.rows, candidateRows, List.map_map, Function.comp_def,
    List.map_id'] at daily
  exact ⟨identity, daily⟩

/-- What a decided action does keeps the latest snapshot in the mart. -/
theorem latest_of_decision
    {state : Publications Measures}
    (latest : Latest fromisoformat state)
    {snapshot : Snapshot Measures}
    {action : SnapshotAction}
    (decided : decision fromisoformat snapshot.identity snapshot.rows state.mart = .ok action) :
    Latest fromisoformat
      { mart := (carryOut snapshot.rows state.mart (.ok action)).state
        published := snapshot :: state.published } := by
  have written : snapshot.Valid -> Holds (some snapshot.rows) snapshot :=
    fun valid => ⟨⟨snapshot.rows, rfl, List.Perm.refl _⟩, valid⟩
  rcases latest with ⟨noMart, nothing⟩ | ⟨current, isPublished, holds, others⟩
  · have isNone : currentIdentity state.mart = .ok none := by rw [noMart]; rfl
    obtain ⟨valid, isAction, _⟩ := (decision_eq_ok_iff isNone).mp decided
    injection isAction with isCreate
    subst isCreate
    refine Or.inr ⟨snapshot, List.mem_cons_self, written valid, fun other member => ?_⟩
    rw [nothing, List.mem_singleton] at member
    rw [member]
    exact Or.inl ⟨rfl, List.Perm.refl _⟩
  · obtain ⟨valid, isAction, same⟩ := (decision_eq_ok_iff holds.currentIdentity_eq).mp decided
    rcases snapshotAction_cases isAction with ⟨rfl, earlier⟩ | ⟨rfl, identity⟩ | ⟨rfl, later⟩
    · refine Or.inr ⟨current, List.mem_cons_of_mem _ isPublished, holds, fun other member => ?_⟩
      rcases List.mem_cons.mp member with rfl | old
      · exact Or.inr earlier
      · exact others other old
    · refine Or.inr ⟨current, List.mem_cons_of_mem _ isPublished, holds, fun other member => ?_⟩
      rcases List.mem_cons.mp member with rfl | old
      · exact Or.inl (holds.sameAs identity (same rfl))
      · exact others other old
    · refine Or.inr ⟨snapshot, List.mem_cons_self, written valid, fun other member => ?_⟩
      rcases List.mem_cons.mp member with rfl | old
      · exact Or.inl ⟨rfl, List.Perm.refl _⟩
      · rcases others other old with identical | earlier
        · exact Or.inr (identical.identity ▸ later)
        · exact Or.inr (earlier.trans later)

/-- Every call, to its end or cut off, keeps the latest snapshot in the mart. -/
theorem latest_preserved :
    (publications fromisoformat : Machine (Publications Measures)
      (PublishEvent Measures)).Preserves (Latest fromisoformat) := by
  intro state event latest
  cases event with
  | publish snapshot =>
      simp only [publications, Publications.step]
      cases decided : decision fromisoformat snapshot.identity snapshot.rows state.mart with
      | error problem =>
          have refused : Job.Refused state.mart
              (publishSnapshot fromisoformat snapshot.identity snapshot.daily state.mart) :=
            refused_of_no_action fun action isAction => by simp [decided] at isAction
          obtain ⟨reason, failed⟩ := refused.failed
          simp only [failed, refused.state]
          exact latest
      | ok action =>
          have next := latest_of_decision latest decided
          rw [publishSnapshot_of_decision decided]
          cases action <;> exact next
  | interrupt snapshot committed =>
      simp only [publications, Publications.step]
      cases decided : decision fromisoformat snapshot.identity snapshot.rows state.mart with
      | error problem =>
          have refused : Job.Refused state.mart
              (publishSnapshot fromisoformat snapshot.identity snapshot.daily state.mart) :=
            refused_of_no_action fun action isAction => by simp [decided] at isAction
          rw [refused.commits]
          exact latest
      | ok action =>
          have next := latest_of_decision latest decided
          rw [publishSnapshot_of_decision decided]
          cases action with
          | stale => exact latest
          | replay => exact latest
          | create =>
              cases committed with
              | false => exact latest
              | true => exact next
          | replace =>
              cases committed with
              | false => exact latest
              | true => exact next

/-! ## The promise of the mart -/

/-- What the mart holds after any calls, and what the next call does to it. -/
structure MartCorrect
    (fromisoformat : String -> Option Datetime)
    (state : Publications Measures) : Prop where
  latest : Latest fromisoformat state
  /-- Rows that are empty, mixed or not unique per day raise. -/
  invalid : forall snapshot : Snapshot Measures, ¬snapshot.Valid ->
    Job.Refused state.mart
      (publishSnapshot fromisoformat snapshot.identity snapshot.daily state.mart)
  /-- The first snapshot creates the mart. -/
  first : state.mart = none -> forall snapshot : Snapshot Measures, snapshot.Valid ->
    publishSnapshot fromisoformat snapshot.identity snapshot.daily state.mart =
      carryOut snapshot.rows state.mart (.ok .create)
  /-- A newer snapshot replaces the rows. -/
  newer : forall current, Holds state.mart current -> forall snapshot : Snapshot Measures,
    snapshot.Valid -> Earlier fromisoformat current.identity snapshot.identity ->
      publishSnapshot fromisoformat snapshot.identity snapshot.daily state.mart =
        carryOut snapshot.rows state.mart (.ok .replace)
  /-- An older snapshot leaves the mart as it is. -/
  older : forall current, Holds state.mart current -> forall snapshot : Snapshot Measures,
    snapshot.Valid -> Earlier fromisoformat snapshot.identity current.identity ->
      publishSnapshot fromisoformat snapshot.identity snapshot.daily state.mart =
        carryOut snapshot.rows state.mart (.ok .stale)
  /-- So does a replay. -/
  replay : forall current, Holds state.mart current -> forall snapshot : Snapshot Measures,
    snapshot.SameAs current ->
      (publishSnapshot fromisoformat snapshot.identity snapshot.daily state.mart).state =
          state.mart ∧
        ((fromisoformat current.identity.batchAt).isSome = true ->
          publishSnapshot fromisoformat snapshot.identity snapshot.daily state.mart =
            carryOut snapshot.rows state.mart (.ok .replay))
  /-- Another identity at the same instant raises. -/
  conflict : forall current, Holds state.mart current -> forall snapshot : Snapshot Measures,
    SameInstant fromisoformat snapshot.identity current.identity ->
      snapshot.identity ≠ current.identity ->
        Job.Refused state.mart
          (publishSnapshot fromisoformat snapshot.identity snapshot.daily state.mart)
  /-- The same identity with other rows raises. -/
  altered : forall current, Holds state.mart current -> forall snapshot : Snapshot Measures,
    snapshot.identity = current.identity -> ¬snapshot.daily.Perm current.daily ->
      Job.Refused state.mart
        (publishSnapshot fromisoformat snapshot.identity snapshot.daily state.mart)

omit [DecidableEq Measures] in
theorem Snapshot.SameAs.rows_perm
    {left right : Snapshot Measures}
    (same : left.SameAs right) :
    left.rows.Perm right.rows := by
  rw [Snapshot.rows, Snapshot.rows, same.identity]
  exact same.daily.map _

omit [DecidableEq Measures] in
theorem Snapshot.SameAs.valid
    {left right : Snapshot Measures}
    (same : left.SameAs right)
    (valid : right.Valid) :
    left.Valid where
  nonempty := by
    intro none
    have perm := same.daily
    rw [none] at perm
    exact valid.nonempty perm.nil_eq.symm
  ofSnapshot := by
    intro row member
    rw [same.identity]
    exact valid.ofSnapshot row (same.daily.mem_iff.mp member)
  dated := fun row member => valid.dated row (same.daily.mem_iff.mp member)
  days := (same.daily.map DailyRow.orderDay).nodup_iff.mpr valid.days

omit [DecidableEq Measures] in
/-- The mart has the rows of the snapshot that it holds. -/
theorem Holds.perm
    {mart : Mart Measures}
    {snapshot : Snapshot Measures}
    (holds : Holds mart snapshot) :
    snapshot.rows.Perm (mart.getD []) := by
  obtain ⟨⟨rows, rfl, perm⟩, _⟩ := holds
  exact perm.symm

theorem Latest.correct
    {state : Publications Measures}
    (latest : Latest fromisoformat state) :
    MartCorrect fromisoformat state where
  latest := latest
  invalid := by
    intro snapshot notValid
    refine refused_of_no_action fun action decided => ?_
    cases identity : currentIdentity state.mart with
    | error problem =>
        simp [decision, Fallible.bind_eq_ok_iff, identity] at decided
    | ok current => exact notValid ((decision_eq_ok_iff identity).mp decided).1
  first := by
    intro noMart snapshot valid
    have isNone : currentIdentity state.mart = .ok none := by rw [noMart]; rfl
    exact publishSnapshot_of_decision
      ((decision_eq_ok_iff isNone).mpr ⟨valid, rfl, fun isReplay => nomatch isReplay⟩)
  newer := by
    intro current holds snapshot valid later
    exact publishSnapshot_of_decision ((decision_eq_ok_iff holds.currentIdentity_eq).mpr
      ⟨valid, snapshotAction_of_later later, fun isReplay => nomatch isReplay⟩)
  older := by
    intro current holds snapshot valid earlier
    exact publishSnapshot_of_decision ((decision_eq_ok_iff holds.currentIdentity_eq).mpr
      ⟨valid, snapshotAction_of_earlier earlier, fun isReplay => nomatch isReplay⟩)
  replay := by
    intro current holds snapshot same
    have rows : snapshot.rows.Perm (state.mart.getD []) := same.rows_perm.trans holds.perm
    constructor
    · cases decided : decision fromisoformat snapshot.identity snapshot.rows state.mart with
      | error problem =>
          exact (refused_of_no_action fun action isAction => by simp [decided] at isAction).state
      | ok action =>
          obtain ⟨_, isAction, _⟩ := (decision_eq_ok_iff holds.currentIdentity_eq).mp decided
          rw [same.identity] at isAction
          rw [publishSnapshot_of_decision decided, snapshotAction_of_same isAction]
          rfl
    · intro parses
      obtain ⟨currentAt, isCurrent⟩ := Option.isSome_iff_exists.mp parses
      have sameInstant : SameInstant fromisoformat snapshot.identity current.identity := by
        rw [same.identity]
        exact ⟨currentAt, currentAt, isCurrent, isCurrent, by simp [Datetime.same]⟩
      refine publishSnapshot_of_decision ((decision_eq_ok_iff holds.currentIdentity_eq).mpr
        ⟨same.valid holds.valid, ?_, fun _ => rows⟩)
      rw [snapshotAction_of_same_instant sameInstant, if_pos same.identity]
  conflict := by
    intro current holds snapshot sameInstant differ
    refine refused_of_no_action fun action decided => ?_
    obtain ⟨_, isAction, _⟩ := (decision_eq_ok_iff holds.currentIdentity_eq).mp decided
    rw [snapshotAction_of_same_instant sameInstant, if_neg differ] at isAction
    contradiction
  altered := by
    intro current holds snapshot identity differ
    refine refused_of_no_action fun action decided => ?_
    obtain ⟨_, isAction, rows⟩ := (decision_eq_ok_iff holds.currentIdentity_eq).mp decided
    rw [identity] at isAction
    exact differ (holds.sameAs identity (rows (snapshotAction_of_same isAction))).daily

/-- After any calls, to their ends or cut off, in any order and with any repetitions, the
mart has the rows and the identity of the snapshot with the greatest instant. -/
theorem mart_latest_wins
    (fromisoformat : String -> Option Datetime)
    (events : List (PublishEvent Measures)) :
    MartCorrect fromisoformat ((publications fromisoformat).run events) :=
  (latest_preserved.run (Or.inl ⟨rfl, rfl⟩) events).correct

end GoldCommerceCurrent
end Spark
end LakehouseOps
