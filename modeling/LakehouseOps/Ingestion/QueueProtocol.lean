import LakehouseOps.Ingestion.PlannerRules
import LakehouseOps.Library.Machine

/-!
# The batch queue under concurrency

Any number of processes plan, begin and commit over one pair of state files
while new manifests land. An event is one atomic action of one party, so a list
of events is an interleaving. `begin` and `commit` take any arguments: whatever
a process selected, however stale, is such an argument.

Both hold the state lock. Inside `commit` the checkpoint replacement and the
removal of the reservation are two events, and the process may crash between
them; until then every other `begin` or `commit` fails as busy.
-/

namespace LakehouseOps
namespace Ingestion
namespace QueueProtocol

open Library

/-- The identity of a planner process. -/
abbrev Process := Nat

/-- A commit that has replaced the checkpoint and still holds the lock. -/
structure Committing where
  process : Process
  batchId : String
  reserved : Bool

/-- Everything the processes share, with the commits that have returned
`created=True` so far. -/
structure QueueState where
  landed : List CommerceBatch
  files : PlannerFiles
  committing : Option Committing
  acknowledged : List String

/-- One action of one party. -/
inductive QueueEvent
  | land (batch : CommerceBatch)
  /-- A plan reads the listing and both files and changes nothing. -/
  | plan (process : Process) (maxBatches : Int) (replayBatches : List String)
  | begin (process : Process) (selected : BatchEntry)
  /-- A commit up to the checkpoint replacement. The budget check directly
  before the replacement may raise. -/
  | replace (process : Process) (batchId : String)
      (expectedManifestSha256 : Option String) (withinBudget : Bool)
  /-- The rest of the commit: remove the reservation and return. -/
  | finish (process : Process)
  | crash (process : Process)

namespace QueueState

/-- The record the checkpoint file holds for a batch. -/
def processed (state : QueueState) (batchId : String) : Option ProcessedBatch :=
  state.files.processed batchId

theorem processed_eq
    {state : QueueState}
    {checkpoint : Checkpoint}
    (loaded : loadState state.files.checkpoint = .ok checkpoint)
    (batchId : String) :
    state.processed batchId = checkpoint.processed batchId :=
  PlannerFiles.processed_eq loaded batchId

/-- The records depend on the checkpoint file alone. -/
theorem processed_congr
    {left right : QueueState}
    (same : left.files.checkpoint = right.files.checkpoint) :
    left.processed = right.processed := by
  unfold processed PlannerFiles.processed
  rw [same]

end QueueState

/-- Put-if-absent on the commit marker of a batch. -/
def land (state : QueueState) (batch : CommerceBatch) : QueueState :=
  if batch.batchId ∈ state.landed.map CommerceBatch.batchId then state
  else { state with landed := batch :: state.landed }

/-- `begin` under the state lock; a failing call changes nothing. -/
def reserve (state : QueueState) (selected : BatchEntry) : QueueState :=
  match state.committing with
  | some _ => state
  | none =>
      match begin state.files (discover state.landed) selected with
      | .error _ => state
      | .ok files => { state with files := files }

/-- `commit` under the state lock up to the checkpoint replacement. A batch
that is already processed is reported with `created=False`. -/
def replace
    (state : QueueState)
    (process : Process)
    (batchId : String)
    (expectedManifestSha256 : Option String)
    (withinBudget : Bool) : QueueState :=
  match state.committing with
  | some _ => state
  | none =>
      match commitDecision state.files (discover state.landed) batchId
          expectedManifestSha256 with
      | .ok (.advance checkpoint reserved) =>
          if withinBudget then
            { state with
              files := state.files.replaceCheckpoint checkpoint
              committing := some { process, batchId, reserved } }
          else state
      | .ok .alreadyProcessed => state
      | .error _ => state

/-- The rest of a commit, which returns `created=True` and frees the lock. -/
def finish (state : QueueState) (process : Process) : QueueState :=
  match state.committing with
  | none => state
  | some commit =>
      if commit.process = process then
        { state with
          files := if commit.reserved then state.files.unlinkActive else state.files
          committing := none
          acknowledged := commit.batchId :: state.acknowledged }
      else state

/-- A crashing process loses the lock and never returns from its commit. -/
def crash (state : QueueState) (process : Process) : QueueState :=
  match state.committing with
  | none => state
  | some commit =>
      if commit.process = process then { state with committing := none } else state

/-- The effect of one event on the shared state. -/
def step (state : QueueState) : QueueEvent -> QueueState
  | .land batch => land state batch
  | .plan _ _ _ => state
  | .begin _ selected => reserve state selected
  | .replace process batchId expected withinBudget =>
      replace state process batchId expected withinBudget
  | .finish process => finish state process
  | .crash process => crash state process

/-- The queue, started without manifests and without state files. -/
def queue : Machine QueueState QueueEvent where
  initial :=
    { landed := []
      files := { checkpoint := .missing, active := .missing }
      committing := none
      acknowledged := [] }
  step := step

/-! ## Steps -/

/-- An event that adds a batch to the checkpoint: the effective moment of a
`created=True` commit. -/
def Creates (state : QueueState) (event : QueueEvent) (batchId : String) : Prop :=
  state.processed batchId = none ∧ (step state event).processed batchId ≠ none

/-- The batch is reserved and not yet processed. -/
def UnfinishedReservation (state : QueueState) (batchId : String) : Prop :=
  Exists fun recorded =>
    state.files.active = .document recorded ∧
    recorded.batchId = batchId ∧
    state.processed batchId = none

/-- The batch is the earliest landed one that is not yet processed. -/
def EarliestPending (state : QueueState) (batch : CommerceBatch) : Prop :=
  batch ∈ state.landed ∧ state.processed batch.batchId = none ∧
    forall other, other ∈ state.landed -> state.processed other.batchId = none ->
      batch.queueKey ≤ other.queueKey

/-- The event changes neither the checkpoint nor the acknowledgements; at most
a commit in progress is lost. -/
structure Quiet (state next : QueueState) : Prop where
  checkpoint : next.files.checkpoint = state.files.checkpoint
  acknowledged : next.acknowledged = state.acknowledged
  committing : next.committing = state.committing ∨ next.committing = none

/-- The event returns from the commit in progress. -/
structure Finishes (state next : QueueState) (commit : Committing) : Prop where
  inProgress : state.committing = some commit
  checkpoint : next.files.checkpoint = state.files.checkpoint
  acknowledged : next.acknowledged = commit.batchId :: state.acknowledged
  committing : next.committing = none

/-- The event replaces the checkpoint by one with the record of one more
landed batch, which is the next one to be processed. -/
structure Replaces
    (state next : QueueState)
    (process : Process)
    (batch : CommerceBatch)
    (checkpoint : Checkpoint)
    (active : Option CommerceBatch) : Prop where
  landed : batch ∈ state.landed
  loaded : loadState state.files.checkpoint = .ok checkpoint
  activeFound : activeBatch state.files.active checkpoint
    (batchesById (discover state.landed)) = .ok active
  fresh : checkpoint.processed batch.batchId = none
  isNext : Exists fun nextBatch => nextBatch.batchId = batch.batchId ∧
    (active = some nextBatch ∨ (active = none ∧
      (pendingBatches checkpoint (discover state.landed)).head? = some nextBatch))
  result : next =
    { state with
      files := state.files.replaceCheckpoint (checkpoint.record batch.batchId
        { batchAt := batch.batchAt, manifestSha256 := batch.manifestSha256 })
      committing := some
        { process, batchId := batch.batchId, reserved := active.isSome } }

theorem Quiet.refl (state : QueueState) : Quiet state state :=
  ⟨rfl, rfl, Or.inl rfl⟩

/-- Everything one event can do to the checkpoint and the acknowledgements. -/
theorem step_cases
    (state : QueueState)
    (event : QueueEvent) :
    Quiet state (step state event) ∨
      (Exists fun commit => Finishes state (step state event) commit) ∨
      Exists fun process => Exists fun batch => Exists fun checkpoint =>
        Exists fun active =>
          Replaces state (step state event) process batch checkpoint active := by
  cases event with
  | land batch =>
      left
      simp only [step, land]
      split
      · exact Quiet.refl state
      · exact ⟨rfl, rfl, Or.inl rfl⟩
  | plan process maxBatches replayBatches => exact Or.inl (Quiet.refl state)
  | begin process selected =>
      left
      simp only [step, reserve]
      cases busy : state.committing with
      | some commit => exact Quiet.refl state
      | none =>
          cases returned : begin state.files (discover state.landed) selected with
          | error problem => exact Quiet.refl state
          | ok files =>
              obtain ⟨_, _, _, _, _, _, _, _, ⟨_, rfl⟩ | ⟨_, _, rfl⟩⟩ :=
                begin_cases returned <;> exact ⟨rfl, rfl, Or.inl busy.symm⟩
  | replace process batchId expected withinBudget =>
      simp only [step, replace]
      cases busy : state.committing with
      | some commit => exact Or.inl (Quiet.refl state)
      | none =>
          cases decided : commitDecision state.files (discover state.landed)
              batchId expected with
          | error problem => exact Or.inl (Quiet.refl state)
          | ok decision =>
              cases decision with
              | alreadyProcessed => exact Or.inl (Quiet.refl state)
              | advance advanced reserved =>
                  cases withinBudget with
                  | false => exact Or.inl (Quiet.refl state)
                  | true =>
                      right
                      right
                      obtain ⟨checkpoint, active, batch, loaded, -, activeFound,
                        listed, -, fresh, rfl, rfl, isNext⟩ :=
                          commitDecision_advance decided
                      obtain ⟨landedBatch, rfl⟩ := mem_of_batchesById listed
                      exact ⟨process, batch, checkpoint, active,
                        mem_discover.mp landedBatch, loaded, activeFound, fresh,
                        isNext, rfl⟩
  | finish process =>
      simp only [step, finish]
      cases inProgress : state.committing with
      | none => exact Or.inl (Quiet.refl state)
      | some commit =>
          dsimp only
          by_cases own : commit.process = process
          · rw [if_pos own]
            refine Or.inr (Or.inl ⟨commit, inProgress, ?_, rfl, rfl⟩)
            cases commit.reserved <;> rfl
          · rw [if_neg own]
            exact Or.inl (Quiet.refl state)
  | crash process =>
      left
      simp only [step, crash]
      cases inProgress : state.committing with
      | none => exact Quiet.refl state
      | some commit =>
          dsimp only
          by_cases own : commit.process = process
          · rw [if_pos own]
            exact ⟨rfl, rfl, Or.inr rfl⟩
          · rw [if_neg own]
            exact Quiet.refl state

/-- The records after a replacement are the earlier ones and the new one. -/
theorem Replaces.processed
    {state next : QueueState}
    {process : Process}
    {batch : CommerceBatch}
    {checkpoint : Checkpoint}
    {active : Option CommerceBatch}
    (replaces : Replaces state next process batch checkpoint active)
    (batchId : String) :
    next.processed batchId =
      if batchId = batch.batchId then
        some { batchAt := batch.batchAt, manifestSha256 := batch.manifestSha256 }
      else state.processed batchId := by
  rw [QueueState.processed_eq replaces.loaded, replaces.result]
  by_cases same : batchId = batch.batchId
  · subst same
    simp [QueueState.processed, PlannerFiles.processed, PlannerFiles.replaceCheckpoint,
      loadState]
  · rw [if_neg same, ← Checkpoint.processed_record_other checkpoint _ same]
    rfl

/-- The replaced checkpoint had no record of the new batch. -/
theorem Replaces.pending
    {state next : QueueState}
    {process : Process}
    {batch : CommerceBatch}
    {checkpoint : Checkpoint}
    {active : Option CommerceBatch}
    (replaces : Replaces state next process batch checkpoint active) :
    state.processed batch.batchId = none :=
  (QueueState.processed_eq replaces.loaded _).trans replaces.fresh

/-- No event removes or changes a record. -/
theorem step_processed_grows
    (state : QueueState)
    (event : QueueEvent)
    {batchId : String}
    {details : ProcessedBatch}
    (recorded : state.processed batchId = some details) :
    (step state event).processed batchId = some details := by
  rcases step_cases state event with quiet | ⟨commit, finishes⟩ |
    ⟨process, batch, checkpoint, active, replaces⟩
  · rw [QueueState.processed_congr quiet.checkpoint, recorded]
  · rw [QueueState.processed_congr finishes.checkpoint, recorded]
  · have different : batchId ≠ batch.batchId := by
      rintro rfl
      rw [replaces.pending] at recorded
      contradiction
    rw [replaces.processed, if_neg different, recorded]

/-- A batch enters the checkpoint with the identity of its landed manifest. It
is the reserved batch if a reservation is unfinished, and otherwise the
earliest pending one. -/
theorem creates_cases
    {state : QueueState}
    {event : QueueEvent}
    {batchId : String}
    (creates : Creates state event batchId) :
    (Exists fun batch => batch ∈ state.landed ∧ batch.batchId = batchId ∧
      (step state event).processed batchId =
        some { batchAt := batch.batchAt, manifestSha256 := batch.manifestSha256 }) ∧
      (forall reserved, UnfinishedReservation state reserved ->
        batchId = reserved) ∧
      ((¬Exists fun reserved => UnfinishedReservation state reserved) ->
        Exists fun batch => batch.batchId = batchId ∧ EarliestPending state batch) := by
  obtain ⟨pending, added⟩ := creates
  rcases step_cases state event with quiet | ⟨commit, finishes⟩ |
    ⟨process, batch, checkpoint, active, replaces⟩
  · rw [QueueState.processed_congr quiet.checkpoint] at added
    exact absurd pending added
  · rw [QueueState.processed_congr finishes.checkpoint] at added
    exact absurd pending added
  · have records := QueueState.processed_eq replaces.loaded
    have activeFound := replaces.activeFound
    obtain ⟨nextBatch, nextId, isNext⟩ := replaces.isNext
    have own : batchId = batch.batchId := by
      by_contra other
      rw [replaces.processed, if_neg other] at added
      exact added pending
    subst own
    refine ⟨⟨batch, replaces.landed, rfl, ?_⟩, ?_, ?_⟩
    · rw [replaces.processed, if_pos rfl]
    · rintro reserved ⟨recorded, file, rfl, unfinished⟩
      rcases isNext with activeNext | ⟨inactive, _⟩
      · rw [activeNext] at activeFound
        obtain ⟨activeFile, _, _⟩ := activeBatch_eq_some activeFound
        rw [file, StateFile.document.injEq] at activeFile
        rw [activeFile, CommerceBatch.asDict_batchId, nextId]
      · rw [inactive] at activeFound
        rcases activeBatch_eq_none activeFound with missing | ⟨other, otherFile, done⟩
        · rw [file] at missing
          contradiction
        · rw [file, StateFile.document.injEq] at otherFile
          rw [← otherFile, ← records, unfinished] at done
          contradiction
    · intro noReservation
      rcases isNext with activeNext | ⟨_, head⟩
      · rw [activeNext] at activeFound
        obtain ⟨activeFile, _, unfinished⟩ := activeBatch_eq_some activeFound
        exact absurd ⟨nextBatch.batchId, nextBatch.asDict, activeFile, rfl,
          (records _).trans unfinished⟩ noReservation
      · obtain ⟨landedNext, pendingNext, earliest⟩ := head_pendingBatches head
        refine ⟨nextBatch, nextId, landedNext, (records _).trans pendingNext, ?_⟩
        intro other landedOther pendingOther
        exact earliest other landedOther ((records _).symm.trans pendingOther)

/-! ## Runs -/

/-- Each acknowledgement is recorded and unique, and the commit in progress is
recorded and not yet acknowledged. -/
structure Acknowledged (state : QueueState) : Prop where
  once : state.acknowledged.Nodup
  recorded : forall batchId, batchId ∈ state.acknowledged ->
    state.processed batchId ≠ none
  committing : forall commit, state.committing = some commit ->
    state.processed commit.batchId ≠ none ∧
      commit.batchId ∉ state.acknowledged

theorem queue_preserves_acknowledged : queue.Preserves Acknowledged := by
  intro state event invariant
  rcases step_cases state event with quiet | ⟨commit, finishes⟩ |
    ⟨process, batch, checkpoint, active, replaces⟩
  · have records := QueueState.processed_congr quiet.checkpoint
    constructor
    · exact quiet.acknowledged ▸ invariant.once
    · intro batchId member
      change (step state event).processed batchId ≠ none
      rw [records]
      exact invariant.recorded batchId (quiet.acknowledged ▸ member)
    · intro commit inProgress
      change (step state event).processed commit.batchId ≠ none ∧
        commit.batchId ∉ (step state event).acknowledged
      rw [records, quiet.acknowledged]
      rcases quiet.committing with same | lost
      · exact invariant.committing commit (same ▸ inProgress)
      · exact absurd (lost.symm.trans inProgress) (by simp)
  · have records := QueueState.processed_congr finishes.checkpoint
    obtain ⟨commitRecorded, unacknowledged⟩ :=
      invariant.committing commit finishes.inProgress
    constructor
    · change (step state event).acknowledged.Nodup
      rw [finishes.acknowledged]
      exact List.nodup_cons.mpr ⟨unacknowledged, invariant.once⟩
    · intro batchId member
      change batchId ∈ (step state event).acknowledged at member
      change (step state event).processed batchId ≠ none
      rw [finishes.acknowledged, List.mem_cons] at member
      rw [records]
      rcases member with rfl | earlier
      · exact commitRecorded
      · exact invariant.recorded batchId earlier
    · intro other inProgress
      exact absurd (finishes.committing.symm.trans inProgress) (by simp)
  · have kept : (step state event).acknowledged = state.acknowledged := by
      rw [replaces.result]
    constructor
    · exact kept ▸ invariant.once
    · intro batchId member
      change batchId ∈ (step state event).acknowledged at member
      obtain ⟨details, recorded⟩ := Option.ne_none_iff_exists'.mp
        (invariant.recorded batchId (kept ▸ member))
      exact Option.ne_none_iff_exists'.mpr
        ⟨details, step_processed_grows state event recorded⟩
    · intro commit inProgress
      change (step state event).committing = some commit at inProgress
      change (step state event).processed commit.batchId ≠ none ∧
        commit.batchId ∉ (step state event).acknowledged
      have own : commit.batchId = batch.batchId := by
        rw [replaces.result] at inProgress
        obtain rfl := Option.some.inj inProgress
        rfl
      rw [own, replaces.processed, if_pos rfl, kept]
      refine ⟨by simp, ?_⟩
      intro member
      exact invariant.recorded batch.batchId member replaces.pending

theorem acknowledged_run (events : List QueueEvent) :
    Acknowledged (queue.run events) := by
  apply queue_preserves_acknowledged.run
  constructor
  · exact List.nodup_nil
  · intro batchId member
    exact absurd member List.not_mem_nil
  · intro commit inProgress
    exact absurd inProgress (by simp [queue])

/-- A record never disappears and never changes in any later state of a run. -/
theorem processed_grows
    (state : QueueState)
    (events : List QueueEvent)
    {batchId : String}
    {details : ProcessedBatch}
    (recorded : state.processed batchId = some details) :
    (queue.runFrom state events).processed batchId = some details := by
  have preserved : queue.Preserves fun current =>
      current.processed batchId = some details :=
    fun current event holds => step_processed_grows current event holds
  exact preserved.runFrom recorded events

/-- Acknowledgements are never withdrawn. -/
theorem acknowledged_grows
    (state : QueueState)
    (events : List QueueEvent)
    {batchId : String}
    (member : batchId ∈ state.acknowledged) :
    batchId ∈ (queue.runFrom state events).acknowledged := by
  have preserved : queue.Preserves fun current =>
      batchId ∈ current.acknowledged := by
    intro current event holds
    change batchId ∈ (step current event).acknowledged
    rcases step_cases current event with quiet | ⟨commit, finishes⟩ |
      ⟨process, batch, checkpoint, active, replaces⟩
    · exact quiet.acknowledged ▸ holds
    · rw [finishes.acknowledged]
      exact List.mem_cons_of_mem _ holds
    · rw [replaces.result]
      exact holds
  exact preserved.runFrom member events

/-- The queue protocol over every interleaving, seen at any event of a run:
records only accumulate and keep their manifest identity, acknowledgements are
unique and never lost, and the batch that enters the checkpoint is the reserved
one or else the earliest pending one. -/
theorem queue_protocol_safe
    (before : List QueueEvent)
    (event : QueueEvent)
    (after : List QueueEvent) :
    let earlier := queue.run before
    let later := queue.run (before ++ event :: after)
    (forall batchId details, earlier.processed batchId = some details ->
      later.processed batchId = some details) ∧
    later.acknowledged.Nodup ∧
    (forall batchId, batchId ∈ earlier.acknowledged ->
      batchId ∈ later.acknowledged) ∧
    (forall batchId, batchId ∈ later.acknowledged ->
      later.processed batchId ≠ none) ∧
    (forall batchId, Creates earlier event batchId ->
      (Exists fun batch => batch ∈ earlier.landed ∧ batch.batchId = batchId ∧
        later.processed batchId =
          some { batchAt := batch.batchAt, manifestSha256 := batch.manifestSha256 }) ∧
      (forall reserved, UnfinishedReservation earlier reserved ->
        batchId = reserved) ∧
      ((¬Exists fun reserved => UnfinishedReservation earlier reserved) ->
        Exists fun batch => batch.batchId = batchId ∧ EarliestPending earlier batch)) := by
  intro earlier later
  have laterRun : later = queue.runFrom earlier (event :: after) :=
    queue.run_append before (event :: after)
  have laterStep : later = queue.runFrom (step earlier event) after := laterRun
  have invariant : Acknowledged later := acknowledged_run _
  refine ⟨?_, invariant.once, ?_, invariant.recorded, ?_⟩
  · intro batchId details recorded
    rw [laterRun]
    exact processed_grows earlier (event :: after) recorded
  · intro batchId member
    rw [laterRun]
    exact acknowledged_grows earlier (event :: after) member
  · intro batchId creates
    obtain ⟨⟨batch, landedBatch, sameId, recorded⟩, reservedRule, earliestRule⟩ :=
      creates_cases creates
    refine ⟨⟨batch, landedBatch, sameId, ?_⟩, reservedRule, earliestRule⟩
    rw [laterStep]
    exact processed_grows (step earlier event) after recorded

end QueueProtocol
end Ingestion
end LakehouseOps
