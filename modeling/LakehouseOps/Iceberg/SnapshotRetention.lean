import LakehouseOps.Iceberg.PlannedActions

/-!
# Retention of snapshots

What a plan expires, against the history of its report: a start of the old snapshots in
the order of their commits, none of the latest ones, and nothing while the table has a
reference other than `main`.
-/

namespace LakehouseOps
namespace Iceberg

open Library Library.Fallible

variable {Number : Type} {floats : Floats Number}
variable {python : Python} {isoformat : Int -> String}
variable {validate : Json -> Except String Unit}

/-! ## What a plan expires -/

/-- The snapshots in the parameters of an action. -/
def PlannedAction.snapshotIds (action : PlannedAction) : List String :=
  match action.parameters.lookup "snapshot_ids" with
  | some (.array ids) => ids.filterMap fun
      | .string id => some id
      | _ => none
  | _ => []

/-- The snapshots that a plan expires. -/
def MaintenancePlan.expiredIds (plan : MaintenancePlan) : List String :=
  (plan.actions.filter fun action => action.actionType = .expireSnapshots).flatMap
    PlannedAction.snapshotIds

/-! ## What a report says -/

/-- The history of a report. -/
def reportHistory (python : Python) (report : Entries) : List SnapshotEntry :=
  match report.lookup "snapshots" with
  | some (.object snapshots) =>
      match snapshots.lookup "history" with
      | some (.array history) => history.filterMap fun entry => (snapshotEntry python entry).toOption
      | _ => []
  | _ => []

/-- A reference is an object with another name than `main`. -/
def OtherReference (reference : Json) : Prop :=
  Exists fun fields => reference = .object fields ∧
    fields.lookup "name" ≠ some (.string "main")

/-- The retention time before the report was collected. -/
def retentionCutoff
    (python : Python)
    (policy : MaintenancePolicy floats)
    (report : Entries) : Except String Int := do
  let collectedAt <- stringField report "collected_at"
  let collected <- timestamp python collectedAt
  hoursBefore collected policy.snapshotRetentionHours

/-- The latest snapshots by the time of their commits. -/
def latestSnapshots (count : Nat) (history : List SnapshotEntry) : List SnapshotEntry :=
  (oldestFirst history).drop (history.length - count)

/-- The snapshots that may expire, the oldest first. -/
def eligibleSnapshots
    (python : Python)
    (policy : MaintenancePolicy floats)
    (report : Entries) : List SnapshotEntry :=
  let history := reportHistory python report
  (oldestFirst history).filter fun entry =>
    (retentionCutoff python policy report).toOption.any (fun cutoff => entry.committedAt < cutoff) &&
      decide (entry ∉ latestSnapshots policy.minSnapshotsToKeep history)

/-- What retention asks of the snapshots that expire. -/
structure Retained
    (python : Python)
    (policy : MaintenancePolicy floats)
    (report : Entries)
    (expired : List String) : Prop where
  unique : expired.Nodup
  recorded : forall id, id ∈ expired ->
    id ∈ (reportHistory python report).map SnapshotEntry.snapshotId
  old : forall entry, entry ∈ reportHistory python report -> entry.snapshotId ∈ expired ->
    Exists fun cutoff => retentionCutoff python policy report = .ok cutoff ∧
      entry.committedAt < cutoff
  oldestFirst : expired <+: (eligibleSnapshots python policy report).map SnapshotEntry.snapshotId
  sparesLatest : forall entry,
    entry ∈ latestSnapshots policy.minSnapshotsToKeep (reportHistory python report) ->
      entry.snapshotId ∉ expired
  followed : forall entry, entry ∈ reportHistory python report -> entry.snapshotId ∈ expired ->
    policy.minSnapshotsToKeep ≤ (reportHistory python report).countP fun other =>
      other ≠ entry ∧ entry.committedAt ≤ other.committedAt
  bounded : expired.length ≤ policy.maxSnapshotsToExpire
  onlyMain : forall references reference, report.lookup "references" = some (.array references) ->
    reference ∈ references -> OtherReference reference -> expired = []
  remaining : min policy.minSnapshotsToKeep (reportHistory python report).length ≤
    ((reportHistory python report).filter fun entry => entry.snapshotId ∉ expired).length

/-! ## The latest snapshots -/

section Latest

variable {count : Nat} {history : List SnapshotEntry}

theorem latestSnapshots_sublist : (latestSnapshots count history).Sublist (oldestFirst history) :=
  List.drop_sublist _ _

theorem length_oldestFirst : (oldestFirst history).length = history.length :=
  (Table.orderedBy_perm SnapshotEntry.committedAt history).length_eq

theorem mem_oldestFirst {entry : SnapshotEntry} : entry ∈ oldestFirst history ↔ entry ∈ history :=
  (Table.orderedBy_perm SnapshotEntry.committedAt history).mem_iff

theorem length_latestSnapshots :
    (latestSnapshots count history).length = min count history.length := by
  rw [latestSnapshots, List.length_drop, length_oldestFirst]
  omega

/-- A snapshot that is not among the latest ones was committed before each of them. -/
theorem committedAt_le_latest
    {entry latest : SnapshotEntry}
    (member : entry ∈ history)
    (isOlder : entry ∉ latestSnapshots count history)
    (isLatest : latest ∈ latestSnapshots count history) :
    entry.committedAt ≤ latest.committedAt := by
  have ordered := Table.orderedBy_pairwise SnapshotEntry.committedAt history
  have split := List.take_append_drop (history.length - count) (oldestFirst history)
  have inOlder : entry ∈ (oldestFirst history).take (history.length - count) := by
    have whole := mem_oldestFirst.mpr member
    rw [← split, List.mem_append] at whole
    exact whole.resolve_right isOlder
  change (oldestFirst history).Pairwise _ at ordered
  rw [← split, List.pairwise_append] at ordered
  exact ordered.2.2 entry inOlder latest isLatest

/-- A snapshot that is not among the latest ones is followed by that many others. -/
theorem followed_of_not_latest
    {entry : SnapshotEntry}
    (member : entry ∈ history)
    (isOlder : entry ∉ latestSnapshots count history) :
    count ≤ history.countP fun other =>
      other ≠ entry ∧ entry.committedAt ≤ other.committedAt := by
  have longer : count < history.length := by
    by_contra short
    apply isOlder
    rw [latestSnapshots, Nat.sub_eq_zero_of_le (Nat.le_of_not_lt short), List.drop_zero]
    exact mem_oldestFirst.mpr member
  have later : forall latest, latest ∈ latestSnapshots count history ->
      decide (latest ≠ entry ∧ entry.committedAt ≤ latest.committedAt) = true := by
    intro latest isLatest
    rw [decide_eq_true_eq]
    refine ⟨?_, committedAt_le_latest member isOlder isLatest⟩
    rintro rfl
    exact isOlder isLatest
  calc
    count = (latestSnapshots count history).length := by
      rw [length_latestSnapshots, Nat.min_eq_left (Nat.le_of_lt longer)]
    _ = (latestSnapshots count history).countP fun other =>
        other ≠ entry ∧ entry.committedAt ≤ other.committedAt :=
      (List.countP_eq_length.mpr later).symm
    _ ≤ (oldestFirst history).countP fun other =>
        other ≠ entry ∧ entry.committedAt ≤ other.committedAt :=
      latestSnapshots_sublist.countP_le
    _ = history.countP fun other =>
        other ≠ entry ∧ entry.committedAt ≤ other.committedAt :=
      (Table.orderedBy_perm SnapshotEntry.committedAt history).countP_eq _

/-- What spares the latest snapshots leaves at least as many. -/
theorem remaining_of_spares
    {expired : List String}
    (spares : forall entry, entry ∈ latestSnapshots count history -> entry.snapshotId ∉ expired) :
    min count history.length ≤
      (history.filter fun entry => entry.snapshotId ∉ expired).length := by
  have spared : (latestSnapshots count history).filter (fun entry =>
      decide (entry.snapshotId ∉ expired)) = latestSnapshots count history :=
    List.filter_eq_self.mpr fun entry isLatest => decide_eq_true (spares entry isLatest)
  calc
    min count history.length = ((latestSnapshots count history).filter fun entry =>
        entry.snapshotId ∉ expired).length := by
      rw [spared, length_latestSnapshots]
    _ ≤ ((oldestFirst history).filter fun entry => entry.snapshotId ∉ expired).length :=
      (latestSnapshots_sublist.filter _).length_le
    _ = (history.filter fun entry => entry.snapshotId ∉ expired).length :=
      ((Table.orderedBy_perm SnapshotEntry.committedAt history).filter _).length_eq

end Latest

/-! ## The expiry of a plan -/

variable {policy : MaintenancePolicy floats} {report : Entries}

/-- The ids that the planner takes are those of the eligible snapshots. -/
theorem expiryCandidates_eq
    {history : List SnapshotEntry}
    (unique : (history.map SnapshotEntry.snapshotId).Nodup)
    (count : Nat)
    (cutoff : Int) :
    expiryCandidates count cutoff history =
      ((oldestFirst history).filter fun entry =>
        decide (entry.committedAt < cutoff) &&
          decide (entry ∉ latestSnapshots count history)).map SnapshotEntry.snapshotId := by
  have apart : forall entry, entry ∈ oldestFirst history ->
      (entry.snapshotId ∈ (latestSnapshots count history).map SnapshotEntry.snapshotId ↔
        entry ∈ latestSnapshots count history) := by
    intro entry member
    constructor
    · intro kept
      obtain ⟨latest, isLatest, same⟩ := List.mem_map.mp kept
      have inHistory := mem_oldestFirst.mp (latestSnapshots_sublist.subset isLatest)
      rwa [← List.inj_on_of_nodup_map unique inHistory (mem_oldestFirst.mp member) same]
    · exact List.mem_map_of_mem
  unfold expiryCandidates
  simp only [length_oldestFirst]
  congr 1
  apply List.filter_congr
  intro entry member
  have same := apart entry member
  unfold latestSnapshots at same ⊢
  rw [← Bool.decide_and, decide_eq_decide, same]

/-- A history that is read whole is the history of the report. -/
theorem reportHistory_eq
    {snapshots : Entries}
    {history : List Json}
    {normalized : List SnapshotEntry}
    (isSnapshots : objectField report "snapshots" = .ok snapshots)
    (isHistory : snapshots.lookup "history" = some (.array history))
    (isNormalized : history.mapM (snapshotEntry python) = .ok normalized) :
    reportHistory python report = normalized := by
  unfold reportHistory
  rw [objectField_eq_ok_iff.mp isSnapshots]
  simp only [isHistory]
  clear isHistory
  induction history generalizing normalized with
  | nil => exact Except.ok.inj isNormalized
  | cons entry rest inductionHypothesis =>
      rw [List.mapM_cons] at isNormalized
      obtain ⟨first, isFirst, isNormalized⟩ := bind_eq_ok_iff.mp isNormalized
      obtain ⟨others, areOthers, isNormalized⟩ := bind_eq_ok_iff.mp isNormalized
      rw [← Except.ok.inj isNormalized, List.filterMap_cons, isFirst,
        inductionHypothesis areOthers]
      rfl

theorem main_of_nonMainReference
    {fields : Entries}
    (isMain : nonMainReference (.object fields) = none) :
    fields.lookup "name" = some (.string "main") := by
  unfold nonMainReference at isMain
  split at isMain
  · next entries same =>
      obtain rfl := Json.object.inj same
      split at isMain
      · next name present =>
          split at isMain
          · next isName => rw [present, isName]
          · contradiction
      · contradiction
  · next other => exact absurd rfl (other fields)

theorem validateReport_collectedAt
    {document : Json}
    {source : Source}
    (validated : validateReport document = .ok (report, source)) :
    stringField report "collected_at" = .ok source.collectedAt := by
  unfold validateReport at validated
  split at validated
  · obtain ⟨_, _, validated⟩ := bind_eq_ok_iff.mp validated
    obtain ⟨_, _, validated⟩ := bind_eq_ok_iff.mp validated
    obtain ⟨_, _, validated⟩ := bind_eq_ok_iff.mp validated
    obtain ⟨collectedAt, isCollectedAt, validated⟩ := bind_eq_ok_iff.mp validated
    obtain ⟨_, _, validated⟩ := bind_eq_ok_iff.mp validated
    split at validated
    · contradiction
    · obtain ⟨_, _, validated⟩ := bind_eq_ok_iff.mp validated
      obtain ⟨_, _, validated⟩ := bind_eq_ok_iff.mp validated
      obtain ⟨rfl, rfl⟩ := Prod.mk.inj (Except.ok.inj validated)
      exact isCollectedAt
  · contradiction

theorem snapshotIds_idArray
    (source : Source)
    (reason : String)
    (ids : List String)
    (additionalSafety : Entries) :
    (plannedAction python source .expireSnapshots "retention_window" reason
      [("snapshot_ids", idArray ids)] additionalSafety).snapshotIds = ids := by
  change (ids.map Json.string).filterMap _ = ids
  rw [List.filterMap_map]
  exact List.filterMap_some

/-- The plan expires what the check of the snapshots has planned. -/
theorem expiredIds_eq
    {document : Json}
    {plan : MaintenancePlan}
    (accepted : planMaintenance python isoformat validate policy document = .ok plan) :
    Exists fun report => Exists fun check => Exists fun actions =>
      validateReport document = .ok (report, plan.source) ∧
      checkSnapshots python isoformat policy report plan.source = .ok (check, actions) ∧
      plan.expiredIds = actions.flatMap PlannedAction.snapshotIds := by
  obtain ⟨report, dataFilesActions, manifestsActions, check, snapshotsActions, orphanActions,
    isReport, dataFiles, manifests, checked, orphans, isActions⟩ :=
    planMaintenance_cases accepted
  refine ⟨report, check, snapshotsActions, isReport, checked, ?_⟩
  have noDataFiles : dataFilesActions.filter
      (fun action => decide (action.actionType = .expireSnapshots)) = [] := by
    rcases dataFiles with rfl | ⟨reason, rfl⟩ <;> rfl
  have noManifests : manifestsActions.filter
      (fun action => decide (action.actionType = .expireSnapshots)) = [] := by
    rcases manifests with rfl | ⟨reason, rfl⟩ <;> rfl
  have noOrphans : orphanActions.filter
      (fun action => decide (action.actionType = .expireSnapshots)) = [] := by
    rcases orphans with rfl | ⟨reason, parameters, additionalSafety, rfl⟩ <;> rfl
  have allSnapshots : snapshotsActions.filter
      (fun action => decide (action.actionType = .expireSnapshots)) = snapshotsActions := by
    rcases checkSnapshots_cases checked with rfl | ⟨_, _, _, _, _, _, _, _, _, _, _, _, _, _, _,
      _, rfl⟩ <;> rfl
  rw [MaintenancePlan.expiredIds, isActions, List.filter_append, List.filter_append,
    List.filter_append, noDataFiles, noManifests, noOrphans, allSnapshots, List.nil_append,
    List.nil_append, List.append_nil]

/-- A report without any expiry keeps everything. -/
theorem retained_nil : Retained python policy report [] where
  unique := List.nodup_nil
  recorded := fun _ none => absurd none List.not_mem_nil
  old := fun _ _ none => absurd none List.not_mem_nil
  oldestFirst := List.nil_prefix
  sparesLatest := fun _ _ => List.not_mem_nil
  followed := fun _ _ none => absurd none List.not_mem_nil
  bounded := Nat.zero_le _
  onlyMain := fun _ _ _ _ _ => rfl
  remaining := remaining_of_spares fun _ _ => List.not_mem_nil

theorem eligibleSnapshots_eq
    {cutoff : Int}
    (isCutoff : retentionCutoff python policy report = .ok cutoff) :
    eligibleSnapshots python policy report =
      (oldestFirst (reportHistory python report)).filter fun entry =>
        decide (entry.committedAt < cutoff) &&
          decide (entry ∉ latestSnapshots policy.minSnapshotsToKeep
            (reportHistory python report)) := by
  unfold eligibleSnapshots
  rw [isCutoff]
  rfl

/-- A start of the eligible snapshots is what retention asks for. -/
theorem retained_take
    {cutoff : Int}
    (unique : ((reportHistory python report).map SnapshotEntry.snapshotId).Nodup)
    (isCutoff : retentionCutoff python policy report = .ok cutoff)
    (onlyMain : forall references reference,
      report.lookup "references" = some (.array references) ->
        reference ∈ references -> ¬OtherReference reference) :
    Retained python policy report
      (((eligibleSnapshots python policy report).map SnapshotEntry.snapshotId).take
        policy.maxSnapshotsToExpire) := by
  have sub : (eligibleSnapshots python policy report).Sublist
      (oldestFirst (reportHistory python report)) := List.filter_sublist
  have eligible : forall entry, entry ∈ eligibleSnapshots python policy report ->
      entry.committedAt < cutoff ∧
        entry ∉ latestSnapshots policy.minSnapshotsToKeep (reportHistory python report) := by
    intro entry member
    rw [eligibleSnapshots_eq isCutoff] at member
    simpa using (List.mem_filter.mp member).2
  have expired : forall entry, entry ∈ reportHistory python report ->
      entry.snapshotId ∈ ((eligibleSnapshots python policy report).map
        SnapshotEntry.snapshotId).take policy.maxSnapshotsToExpire ->
      entry ∈ eligibleSnapshots python policy report := by
    intro entry member isExpired
    obtain ⟨other, isEligible, same⟩ := List.mem_map.mp (List.mem_of_mem_take isExpired)
    rwa [← List.inj_on_of_nodup_map unique (mem_oldestFirst.mp (sub.subset isEligible)) member
      same]
  have spares : forall entry,
      entry ∈ latestSnapshots policy.minSnapshotsToKeep (reportHistory python report) ->
        entry.snapshotId ∉ ((eligibleSnapshots python policy report).map
          SnapshotEntry.snapshotId).take policy.maxSnapshotsToExpire := by
    intro entry isLatest isExpired
    have member := mem_oldestFirst.mp (latestSnapshots_sublist.subset isLatest)
    exact (eligible entry (expired entry member isExpired)).2 isLatest
  have distinct : ((oldestFirst (reportHistory python report)).map
      SnapshotEntry.snapshotId).Nodup :=
    ((Table.orderedBy_perm SnapshotEntry.committedAt (reportHistory python report)).map
      SnapshotEntry.snapshotId).nodup_iff.mpr unique
  exact
    { unique := (distinct.sublist (sub.map _)).sublist (List.take_sublist _ _)
      recorded := by
        intro id isExpired
        obtain ⟨entry, isEligible, rfl⟩ := List.mem_map.mp (List.mem_of_mem_take isExpired)
        exact List.mem_map_of_mem (mem_oldestFirst.mp (sub.subset isEligible))
      old := fun entry member isExpired =>
        ⟨cutoff, isCutoff, (eligible entry (expired entry member isExpired)).1⟩
      oldestFirst := List.take_prefix _ _
      sparesLatest := spares
      followed := fun entry member isExpired =>
        followed_of_not_latest member (eligible entry (expired entry member isExpired)).2
      bounded := List.length_take_le _ _
      onlyMain := fun references reference isReferences member isOther =>
        absurd isOther (onlyMain references reference isReferences member)
      remaining := remaining_of_spares spares }

/-- What an accepted plan expires is what retention asks for. -/
theorem planned_expiry_retained
    {document : Json}
    {plan : MaintenancePlan}
    (accepted : planMaintenance python isoformat validate policy document = .ok plan) :
    Exists fun report => document = .object report ∧
      Retained python policy report plan.expiredIds := by
  obtain ⟨report, check, actions, isReport, checked, isExpired⟩ := expiredIds_eq accepted
  refine ⟨report, (validateReport_eq_ok isReport).shape, ?_⟩
  rw [isExpired]
  rcases checkSnapshots_cases checked with rfl | ⟨reason, snapshots, history, references,
    normalized, collected, cutoff, isSnapshots, isHistory, isReferences, onlyMain, isNormalized,
    unique, isCollected, isCutoff, _, rfl⟩
  · exact retained_nil
  · have isHistory := reportHistory_eq isSnapshots isHistory isNormalized
    have isRetention : retentionCutoff python policy report = .ok cutoff := by
      unfold retentionCutoff
      rw [validateReport_collectedAt isReport, ok_bind, isCollected, ok_bind, isCutoff]
    rw [List.flatMap_singleton, snapshotIds_idArray, expiryCandidates_eq unique, ← isHistory,
      ← eligibleSnapshots_eq isRetention]
    refine retained_take (isHistory ▸ unique) isRetention ?_
    rintro found reference areFound member ⟨fields, rfl, isOther⟩
    obtain rfl := Json.array.inj (Option.some.inj (isReferences.symm.trans areFound))
    exact isOther (main_of_nonMainReference (List.filterMap_eq_nil_iff.mp onlyMain _ member))

theorem rolled_back_expiry_retained :
    Exists fun report => Json.object rolledBackReport = .object report ∧
      Retained reportPython defaultPolicy report rolledBackPlan.expiredIds :=
  planned_expiry_retained rolledBackPlan_accepted

end Iceberg
end LakehouseOps
