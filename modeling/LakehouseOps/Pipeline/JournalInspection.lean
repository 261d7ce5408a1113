import LakehouseOps.Pipeline.RunJournal
import Mathlib.Data.List.Dedup

/-!
# Inspection of the journal

The inspection groups the rows of the journal by their run, takes the newest runs, and
compares the last row of each with the checkpoint.
-/

namespace LakehouseOps
namespace Pipeline
namespace CommerceRun

open Library Library.Dialogue Ingestion

variable {Seconds Problem : Type}

/-! ## The inspection -/

/-- A row of the query: a run, with the numbers of its rows and the last of them. -/
structure Attempt where
  runId : Nat
  firstSequence : Nat
  lastSequence : Nat
  eventCount : Nat
  checkpointCompletedEvents : Nat
  last : JournalRow

def isCompletion (row : JournalRow) : Bool :=
  decide (row.phase = "checkpoint" ∧ row.event = "completed")

/-- The group of a run; `sequence` counts the rows of the table from one. -/
def attemptOf (journal : List (Nat × JournalRow)) (runId : Nat) : Option Attempt :=
  let rows := (journal.zipIdx 1).filter fun row => row.1.1 = runId
  match rows.head?, rows.getLast? with
  | some first, some last =>
      some {
        runId
        firstSequence := first.2
        lastSequence := last.2
        eventCount := rows.length
        checkpointCompletedEvents := rows.countP fun row => isCompletion row.1.2
        last := last.1.2 }
  | _, _ => none

/-- `ORDER BY last_sequence DESC LIMIT ?` -/
def attempts (journal : List (Nat × JournalRow)) (limit : Nat) : List Attempt :=
  (((journal.map Prod.fst).dedup.filterMap (attemptOf journal)).mergeSort fun left right =>
    decide (right.lastSequence ≤ left.lastSequence)).take limit

/-- A run of the report. -/
structure InspectedRun where
  attempt : Attempt
  outcome : String
  checkpointObservation : Option String

def outcomeOf (row : JournalRow) : String :=
  if row.phase = "run" ∧ row.event ∈ ["ready", "idle"] then row.event
  else if row.event = "failed" then "failed"
  else "unfinished"

def observationOf (processed : Checkpoint) (row : JournalRow) : String :=
  match row.batchId, row.manifestSha256 with
  | some batchId, some manifestSha256 =>
      match processed.processed batchId with
      | none => "not_recorded"
      | some entry =>
          if entry.manifestSha256 = manifestSha256 then "matching_manifest"
          else "different_manifest"
  | _, _ => "not_batch_bound"

inductive InspectionError
  | value (message : String)
  | batch (error : CommerceBatchError)

/-- `inspect_journal`, where the journal can be read -/
def inspectJournal (journal : List (Nat × JournalRow)) (checkpoint : Option (StateFile Checkpoint))
    (limit : Int) : Except InspectionError (List InspectedRun) := do
  Fallible.reject (¬(1 ≤ limit ∧ limit ≤ 100))
    (.value "limit must be an integer between 1 and 100")
  let runs := attempts journal limit.toNat
  match checkpoint with
  | none =>
      return runs.map fun attempt =>
        { attempt, outcome := outcomeOf attempt.last, checkpointObservation := none }
  | some file => do
      let processed <- (loadState file).mapError .batch
      return runs.map fun attempt => {
        attempt
        outcome := outcomeOf attempt.last
        checkpointObservation := some (observationOf processed attempt.last) }

/-! ## Rows of the legal order -/

/-- A row before the end of a commit. -/
def IsEarly (row : JournalRow) : Prop :=
  row.phase ≠ "run" ∧ isCompletion row = false

theorem rowsIn_rows {run : Run Seconds Problem} {written : List JournalRow} {row : JournalRow}
    (member : row ∈ rowsIn (rows run written)) : row ∈ written := by
  unfold rows at member
  by_cases journaled : run.journaled = true
  · rw [if_pos journaled] at member
    obtain ⟨milestone, isMilestone, isRow⟩ := List.mem_filterMap.mp member
    obtain ⟨other, isOther, rfl⟩ := List.mem_map.mp isMilestone
    exact Option.some.inj isRow ▸ isOther
  · rw [if_neg journaled] at member
    exact absurd member List.not_mem_nil

theorem isEarly_of_phase {batch : Option RunBatch} {phase event : String}
    {errorType : Option String} (isNotRun : phase ≠ "run") (isNotCheckpoint : phase ≠ "checkpoint") :
    IsEarly (rowOf batch phase event errorType) :=
  ⟨isNotRun, decide_eq_false fun same => isNotCheckpoint same.1⟩

theorem early_of_verified {run : Run Seconds Problem} {batch : RunBatch}
    {reserved : Option BatchEntry} {row : JournalRow}
    (member : row ∈ rowsIn (verifiedTrace run batch reserved)) : IsEarly row := by
  have early : forall {recorded phase event}, phase ∈ ["planning", "verification"] ->
      row ∈ rowsIn (rows run [rowOf recorded phase event none]) -> IsEarly row := by
    intro recorded phase event isPhase member
    rw [List.mem_singleton.mp (rowsIn_rows member)]
    have never : forall other, other ∈ ["planning", "verification"] ->
        other ≠ "run" ∧ other ≠ "checkpoint" := by decide
    exact isEarly_of_phase (never phase isPhase).1 (never phase isPhase).2
  simp only [verifiedTrace, goldTrace, verifyingTrace, stagedTrace, selectedTrace, reservedTrace,
    startedTrace, rowsIn_append, List.mem_append] at member
  rcases member with ((((((started | reserving) | selected) | staged) | verifying) | gold) |
    verified | committing)
  · exact early (by decide) started
  · obtain ⟨milestone, isMilestone, isRow⟩ := List.mem_filterMap.mp reserving
    obtain ⟨entry, _, rfl⟩ := List.mem_map.mp isMilestone
    exact absurd isRow (Option.some_ne_none _).symm
  · exact early (by decide) selected
  · obtain ⟨milestone, isMilestone, isRow⟩ := List.mem_filterMap.mp staged
    obtain ⟨service, isStage, inStage⟩ := List.mem_flatMap.mp isMilestone
    have inRows : row ∈ rowsIn (stageTrace run batch service) :=
      List.mem_filterMap.mpr ⟨milestone, inStage, isRow⟩
    have named : exists event, row = rowOf (some batch) service event none := by
      rw [stageTrace, rowsIn_append] at inRows
      rcases List.mem_append.mp inRows with first | second
      · exact ⟨_, List.mem_singleton.mp (rowsIn_rows first)⟩
      · exact ⟨_, List.mem_singleton.mp (rowsIn_rows second)⟩
    obtain ⟨event, rfl⟩ := named
    exact isEarly_of_phase (stage_name isStage).1 (stage_name isStage).2
  · exact early (by decide) verifying
  · exact absurd gold List.not_mem_nil
  · exact early (by decide) verified
  · rw [List.mem_singleton.mp (rowsIn_rows committing)]
    have neither : "checkpoint" ≠ "run" ∧ "started" ≠ "completed" := by decide
    exact ⟨neither.1, decide_eq_false fun same => neither.2 same.2⟩

/-- A run has a completed commit once at most; one that is ready has one of its batch, and one
that is idle has none and no batch. -/
structure Conclusive (reached : List Milestone) : Prop where
  once : (rowsIn reached).countP isCompletion ≤ 1
  ready : forall row, row ∈ rowsIn reached -> row.phase = "run" -> row.event = "ready" ->
    Exists fun completion => completion ∈ rowsIn reached ∧
      isCompletion completion = true ∧ completion.batchId = row.batchId ∧
      completion.manifestSha256 = row.manifestSha256
  idle : forall row, row ∈ rowsIn reached -> row.phase = "run" -> row.event = "idle" ->
    row.batchId = none ∧ (rowsIn reached).countP isCompletion = 0

theorem mem_rowsIn_append {left right : List Milestone} {row : JournalRow} :
    row ∈ rowsIn (left ++ right) ↔ row ∈ rowsIn left ∨ row ∈ rowsIn right := by
  rw [rowsIn_append, List.mem_append]

theorem count_verified (run : Run Seconds Problem) (batch : RunBatch)
    (reserved : Option BatchEntry) :
    (rowsIn (verifiedTrace run batch reserved)).countP isCompletion = 0 :=
  List.countP_eq_zero.mpr fun _ member => Bool.eq_false_iff.mp (early_of_verified member).2

theorem rowsIn_replaced (replaced : Option Checkpoint) :
    rowsIn (replaced.toList.map .replaced) = [] := by
  cases replaced <;> rfl

theorem idle_conclusive {run : Run Seconds Problem} {reached : List Milestone}
    (shorter : reached <+: idleTrace run) : Conclusive reached := by
  have sublist : (rowsIn reached).Sublist (rowsIn (idleTrace run)) := shorter.sublist.filterMap _
  have rowsOf : forall row, row ∈ rowsIn reached ->
      row = rowOf none "planning" "started" none ∨ row = rowOf none "run" "idle" none := by
    intro row member
    have inWhole := sublist.subset member
    rw [idleTrace, startedTrace, mem_rowsIn_append] at inWhole
    exact inWhole.imp (fun first => List.mem_singleton.mp (rowsIn_rows first))
      fun second => List.mem_singleton.mp (rowsIn_rows second)
  have never : (rowsIn reached).countP isCompletion = 0 := by
    refine List.countP_eq_zero.mpr fun row member => ?_
    rcases rowsOf row member with rfl | rfl <;> decide
  constructor
  · exact never.le.trans (Nat.zero_le 1)
  · intro row member _ isReady
    rcases rowsOf row member with rfl | rfl
    · exact absurd isReady (by decide)
    · exact absurd isReady (by decide)
  · intro row member _ _
    refine ⟨?_, never⟩
    rcases rowsOf row member with rfl | rfl <;> rfl

theorem ready_conclusive {run : Run Seconds Problem} {reached : List Milestone}
    {batch : RunBatch} {reserved : Option BatchEntry} {replaced : Option Checkpoint}
    (shorter : reached <+: readyTrace run batch reserved replaced) : Conclusive reached := by
  have sublist : (rowsIn reached).Sublist (rowsIn (readyTrace run batch reserved replaced)) :=
    shorter.sublist.filterMap _
  have ofCommitted : forall row,
      row ∈ rowsIn (committedTrace run batch reserved replaced) -> row.phase ≠ "run" := by
    intro row member
    rw [committedTrace, mem_rowsIn_append, mem_rowsIn_append, rowsIn_replaced] at member
    rcases member with early | none | completed
    · exact (early_of_verified early).1
    · exact absurd none List.not_mem_nil
    · rw [List.mem_singleton.mp (rowsIn_rows completed)]
      exact (by decide : "checkpoint" ≠ "run")
  -- The one row of the phase "run" is the last one.
  have isLast : forall row, row ∈ rowsIn reached -> row.phase = "run" ->
      row = rowOf (some batch) "run" "ready" none := by
    intro row member isRun
    have inWhole := sublist.subset member
    rw [readyTrace, mem_rowsIn_append] at inWhole
    rcases inWhole with before | last
    · exact absurd isRun (ofCommitted row before)
    · exact List.mem_singleton.mp (rowsIn_rows last)
  constructor
  · refine (sublist.countP_le).trans ?_
    simp only [readyTrace, committedTrace, rowsIn_append, List.countP_append, count_verified,
      rowsIn_replaced, List.countP_nil, Nat.zero_add]
    unfold rows
    by_cases journaled : run.journaled = true
    · rw [if_pos journaled, if_pos journaled]
      exact (by decide : 1 + 0 ≤ 1)
    · rw [if_neg journaled, if_neg journaled]
      exact Nat.zero_le 1
  · intro row member isRun _
    have inRows : row ∈ rowsIn (rows run [rowOf (some batch) "run" "ready" none]) := by
      have inWhole := sublist.subset member
      rw [readyTrace, mem_rowsIn_append] at inWhole
      exact inWhole.resolve_left fun before => ofCommitted row before isRun
    have journaled : run.journaled = true := by
      by_contra without
      rw [rows, if_neg without] at inRows
      exact List.not_mem_nil inRows
    have completed : rowOf (some batch) "checkpoint" "completed" none ∈
        rowsIn (committedTrace run batch reserved replaced) := by
      rw [committedTrace, mem_rowsIn_append, mem_rowsIn_append, rows, if_pos journaled]
      exact Or.inr (Or.inr (List.mem_singleton_self _))
    rw [isLast row member isRun]
    refine ⟨rowOf (some batch) "checkpoint" "completed" none, ?_, decide_eq_true ⟨rfl, rfl⟩, rfl,
      rfl⟩
    rcases List.prefix_or_prefix_of_prefix shorter (List.prefix_append _ _) with before | whole
    · exact absurd isRun (ofCommitted row ((before.sublist.filterMap _).subset member))
    · exact (whole.sublist.filterMap _).subset completed
  · intro row member isRun isIdle
    rw [isLast row member isRun] at isIdle
    exact absurd isIdle (by decide : ¬"ready" = "idle")

theorem unfailed_conclusive {run : Run Seconds Problem} {reached : List Milestone}
    (unfailed : Unfailed run reached) : Conclusive reached := by
  obtain ⟨whole, isComplete, shorter⟩ := unfailed
  cases isComplete with
  | idle => exact idle_conclusive shorter
  | ready batch reserved replaced => exact ready_conclusive shorter

theorem legal_conclusive {run : Run Seconds Problem} {reached : List Milestone}
    (legal : Legal run reached) : Conclusive reached := by
  rcases legal with unfailed | ⟨done, failure, unfailed, isFailure, rfl⟩
  · exact unfailed_conclusive unfailed
  · have conclusive := unfailed_conclusive unfailed
    have isLast : forall row, row ∈ rowsIn (rows run [failure]) -> row.event = "failed" :=
      fun row member => List.mem_singleton.mp (rowsIn_rows member) ▸ isFailure
    have never : (rowsIn (rows run [failure])).countP isCompletion = 0 := by
      refine List.countP_eq_zero.mpr fun row member => ?_
      refine fun completes => absurd (of_decide_eq_true completes).2 ?_
      rw [isLast row member]
      decide
    have count : (rowsIn (done ++ rows run [failure])).countP isCompletion =
        (rowsIn done).countP isCompletion := by
      rw [rowsIn_append, List.countP_append, never, Nat.add_zero]
    constructor
    · exact count ▸ conclusive.once
    · intro row member isRun isReady
      rcases mem_rowsIn_append.mp member with before | last
      · obtain ⟨completion, written, same⟩ := conclusive.ready row before isRun isReady
        exact ⟨completion, mem_rowsIn_append.mpr (Or.inl written), same⟩
      · rw [isLast row last] at isReady
        exact absurd isReady (by decide)
    · intro row member isRun isIdle
      rcases mem_rowsIn_append.mp member with before | last
      · exact ⟨(conclusive.idle row before isRun isIdle).1,
          count.trans (conclusive.idle row before isRun isIdle).2⟩
      · rw [isLast row last] at isIdle
        exact absurd isIdle (by decide)

/-! ## Rows of the report -/

theorem numbered_rows (journal : List (Nat × JournalRow)) (runId : Nat) :
    ((journal.zipIdx 1).filter fun row => row.1.1 = runId).map (fun row => row.1.2) =
      rowsOfRun journal runId := by
  have numbered : journal = (journal.zipIdx 1).map Prod.fst := (List.zipIdx_map_fst 1 journal).symm
  conv => rhs; rw [numbered]
  rw [rowsOfRun, List.filter_map, List.map_map]
  rfl

theorem attempt_of_run {journal : List (Nat × JournalRow)} {runId : Nat} {attempt : Attempt}
    (isAttempt : attemptOf journal runId = some attempt) :
    attempt.runId = runId ∧ attempt.last ∈ rowsOfRun journal runId ∧
      attempt.checkpointCompletedEvents = (rowsOfRun journal runId).countP isCompletion := by
  rw [← numbered_rows]
  unfold attemptOf at isAttempt
  dsimp only at isAttempt
  generalize ((journal.zipIdx 1).filter fun row => decide (row.1.1 = runId)) = rows at isAttempt ⊢
  cases isFirst : rows.head? with
  | none =>
      rw [isFirst] at isAttempt
      nomatch isAttempt
  | some first =>
      cases isLast : rows.getLast? with
      | none =>
          rw [isFirst, isLast] at isAttempt
          nomatch isAttempt
      | some last =>
          rw [isFirst, isLast] at isAttempt
          obtain rfl := Option.some.inj isAttempt
          refine ⟨rfl, List.mem_map_of_mem (List.mem_of_getLast? isLast), ?_⟩
          rw [List.countP_map]
          rfl

theorem mem_attempts {journal : List (Nat × JournalRow)} {limit : Nat} {attempt : Attempt}
    (reported : attempt ∈ attempts journal limit) :
    attempt.last ∈ rowsOfRun journal attempt.runId ∧ attempt.checkpointCompletedEvents =
      (rowsOfRun journal attempt.runId).countP isCompletion := by
  have member := List.mem_mergeSort.mp (List.mem_of_mem_take reported)
  obtain ⟨runId, _, isAttempt⟩ := List.mem_filterMap.mp member
  obtain ⟨rfl, rest⟩ := attempt_of_run isAttempt
  exact rest

/-! ## Reports of every interleaving -/

/-- A request that writes no row. -/
def Unjournaled : Request Seconds -> Prop
  | .journal _ => False
  | _ => True

/-- A call that writes no row, and what comes after it. -/
theorem sends_calls {Value : Type} (request : Request Seconds) (silent : Unjournaled request)
    {next : Reply Seconds -> Step Seconds Problem Value}
    (rest : forall reply, (next reply).Sends Unjournaled) :
    (call request >>= next).Sends Unjournaled :=
  Sends.bind (sends_call silent) rest

theorem sends_writeState {replacement : Request Seconds} (silent : Unjournaled replacement) :
    (writeState (.done ()) replacement : Step Seconds Problem Unit).Sends Unjournaled := by
  refine sends_calls .createTemporary trivial fun _ => Sends.recover ?_ fun outcome =>
    sends_calls .discardTemporary trivial fun _ => sends_attempt outcome
  exact sends_calls .writeTemporary trivial fun _ =>
    Sends.bind trivial fun _ => sends_calls replacement silent fun _ => trivial

theorem sends_commitWith (run : Run Seconds Problem) (batchId : String)
    (expected : Option String) :
    (commitWith run (.done ()) batchId expected).Sends Unjournaled := by
  refine Sends.bind (Sends.mapFail _ (sends_calls .lock trivial fun _ => Sends.recover ?_
    fun outcome => sends_calls .unlock trivial fun _ => sends_attempt outcome)) fun _ => trivial
  refine sends_calls .discover trivial fun listing => ?_
  refine sends_calls .readFiles trivial fun state => ?_
  refine Sends.bind (sends_attempt _) fun decision => ?_
  cases decision with
  | alreadyProcessed => trivial
  | advance checkpoint reserved =>
      refine Sends.bind (sends_writeState trivial) fun _ => ?_
      by_cases unlinks : reserved = true
      · rw [if_pos unlinks]
        exact sends_calls .unlinkActive trivial fun _ => trivial
      · rw [if_neg unlinks]
        trivial

section Pool

variable [Add Seconds] [Sub Seconds] [Min Seconds] [Zero Seconds] [LE Seconds]
  [DecidableLE Seconds]

variable {parties : Nat -> Party Seconds Problem}

/-- The rows of the journal are by runs. -/
theorem Kept.of_row {state : PoolState Seconds Problem} (kept : Kept parties state)
    {process : Nat} {row : JournalRow} (written : row ∈ rowsOfRun state.store.journal process) :
    Exists fun settings => parties process = .run settings := by
  cases isParty : parties process with
  | run settings => exact ⟨settings, rfl⟩
  | commit settings batchId =>
      rw [kept.journal process] at written
      obtain ⟨before, reply, after, split⟩ := exists_row written
      have silent : (Party.commit settings batchId).program.Sends Unjournaled :=
        Sends.bind (sends_commitWith settings batchId none) fun _ => trivial
      have program : (pool parties).program process =
          (Party.commit settings batchId).program := congrArg Party.program isParty
      rw [Pool.history, program] at split
      have guarded : (Party.commit settings batchId).program.Holds
          (fun _ (request : Request Seconds) => Unjournaled request) (fun _ _ => True) [] :=
        silent.holds (fun _ _ _ isSilent => isSilent) (fun _ _ _ _ _ => trivial) trivial
      exact (guarded.sent _ (Or.inl ⟨_, after, split⟩)).elim

/-- What was recorded at some point of an interleaving is there at every later one. -/
theorem persists_run (parties : Nat -> Party Seconds Problem) (files : PlannerFiles)
    (events later : List (Pool.Event (Answer Seconds Problem))) :
    Persists (((pool parties).machine (startShared files)).run events).store.files
      (((pool parties).machine (startShared files)).run (events ++ later)).store.files := by
  rw [Machine.run_append]
  generalize isStart : ((pool parties).machine (startShared files)).run events = start
  have kept : Kept parties start := isStart ▸ kept_run parties files events
  have preserves : ((pool parties).machine (startShared files)).Preserves fun state =>
      Kept parties state ∧ Persists start.store.files state.store.files := by
    refine Pool.preserves ?_ ?_
    · intro state process request answer served result holds alive pending serves
      have effect := effect_of_serve serves
      refine ⟨holds.1.exchange alive pending effect, fun batchId details recorded => ?_⟩
      exact holds.1.locks.persists alive pending effect batchId details
        (holds.2 batchId details recorded)
    · intro state process holds
      refine ⟨holds.1.crash process, ?_⟩
      rw [show (state.abandoned process
          ((pool parties).abandon state.store process)).store.files = state.store.files from
        files_release state.store process]
      exact holds.2
  exact (preserves.runFrom ⟨kept, fun _ _ recorded => recorded⟩ later).2

/-- What a reader may conclude from the row of a report. -/
structure Sound (parties : Nat -> Party Seconds Problem) (run : InspectedRun) : Prop where
  isRun : Exists fun settings => parties run.attempt.runId = .run settings
  once : run.attempt.checkpointCompletedEvents ≤ 1
  ready : run.outcome = "ready" -> run.attempt.checkpointCompletedEvents = 1 ∧
    run.checkpointObservation = some "matching_manifest"
  idle : run.outcome = "idle" -> run.attempt.checkpointCompletedEvents = 0 ∧
    run.checkpointObservation = some "not_batch_bound"

/-- The report, if there is one, has sound rows. -/
def SoundReport (parties : Nat -> Party Seconds Problem)
    (report : Except InspectionError (List InspectedRun)) : Prop :=
  forall runs, report = .ok runs -> forall run, run ∈ runs -> Sound parties run

theorem outcome_eq {row : JournalRow} {event : String} (isEvent : event ∈ ["ready", "idle"])
    (outcome : outcomeOf row = event) : row.phase = "run" ∧ row.event = event := by
  unfold outcomeOf at outcome
  by_cases ended : row.phase = "run" ∧ row.event ∈ ["ready", "idle"]
  · rw [if_pos ended] at outcome
    exact ⟨ended.1, outcome⟩
  · rw [if_neg ended] at outcome
    by_cases failed : row.event = "failed"
    · rw [if_pos failed] at outcome
      exact absurd isEvent (outcome ▸ by decide)
    · rw [if_neg failed] at outcome
      exact absurd isEvent (outcome ▸ by decide)

theorem observation_of_recorded {files : PlannerFiles} {processed : Checkpoint}
    (loaded : loadState files.checkpoint = .ok processed) {row : JournalRow}
    (recorded : Recorded files row) : observationOf processed row = "matching_manifest" := by
  obtain ⟨batchId, manifestSha256, details, isBatch, isManifest, found, same⟩ := recorded
  rw [PlannerFiles.processed_eq loaded] at found
  rw [observationOf, isBatch, isManifest]
  dsimp only
  rw [found]
  exact if_pos same

/-- In every interleaving of runs and commits, with any crashes, an inspection that reads the
journal at some point, and the checkpoint at that point or a later one, reports a run as ready
only when the checkpoint has its batch. -/
theorem inspection_sound (parties : Nat -> Party Seconds Problem) (files : PlannerFiles)
    (events later : List (Pool.Event (Answer Seconds Problem))) (limit : Int) :
    SoundReport parties (inspectJournal
      (((pool parties).machine (startShared files)).run events).store.journal
      (some (((pool parties).machine (startShared files)).run
        (events ++ later)).store.files.checkpoint) limit) := by
  intro runs isReport run reported
  have kept := kept_run parties files events
  have persists := persists_run parties files events later
  generalize ((pool parties).machine (startShared files)).run events = state at *
  generalize ((pool parties).machine (startShared files)).run (events ++ later) = final at *
  simp only [inspectJournal, Fallible.bind_eq_ok_iff, Fallible.reject_eq_ok_iff] at isReport
  obtain ⟨_, _, processed, isLoaded, isReport⟩ := isReport
  have loaded : loadState final.store.files.checkpoint = .ok processed := by
    cases outcome : loadState final.store.files.checkpoint with
    | ok other =>
        rw [outcome] at isLoaded
        exact congrArg Except.ok (Except.ok.inj isLoaded)
    | error problem =>
        rw [outcome] at isLoaded
        nomatch isLoaded
  rw [← Except.ok.inj isReport] at reported
  obtain ⟨attempt, isAttempt, rfl⟩ := List.mem_map.mp reported
  obtain ⟨written, count⟩ := mem_attempts isAttempt
  obtain ⟨settings, isRun⟩ := kept.of_row written
  obtain ⟨reached, legal, isRows⟩ := kept.ordered isRun
  have conclusive := legal_conclusive legal
  rw [isRows] at written count
  refine ⟨⟨settings, isRun⟩, count ▸ conclusive.once, ?_, ?_⟩
  · intro outcome
    obtain ⟨isPhase, isEvent⟩ := outcome_eq (by decide) outcome
    obtain ⟨completion, isRow, completes, isBatch, isManifest⟩ :=
      conclusive.ready attempt.last written isPhase isEvent
    have positive : 0 < (rowsIn reached).countP isCompletion :=
      List.countP_pos_iff.mpr ⟨completion, isRow, completes⟩
    refine ⟨count.trans (conclusive.once.antisymm positive), congrArg some ?_⟩
    obtain ⟨batchId, manifestSha256, details, ofBatch, ofManifest, found, same⟩ :=
      kept.completed isRun (isRows ▸ isRow) (of_decide_eq_true completes).1
        (of_decide_eq_true completes).2
    exact observation_of_recorded loaded ⟨batchId, manifestSha256, details,
      isBatch.symm.trans ofBatch, isManifest.symm.trans ofManifest,
      persists batchId details found, same⟩
  · intro outcome
    obtain ⟨isPhase, isEvent⟩ := outcome_eq (by decide) outcome
    obtain ⟨noBatch, never⟩ := conclusive.idle attempt.last written isPhase isEvent
    refine ⟨count.trans never, congrArg some ?_⟩
    rw [observationOf, noBatch]

/-- One run that nothing cuts off, and its report. -/
def sampleInspection : Except InspectionError (List InspectedRun) :=
  let files : PlannerFiles := { checkpoint := .missing, active := .missing }
  let state := ((pool fun _ => Party.run sampleRun).machine (startShared files)).run
    (List.replicate 120 (.exchange 0 (.ok sampleReply)))
  inspectJournal state.store.journal (some state.store.files.checkpoint) 10

example : sampleInspection.toOption.map (List.map fun run => run.checkpointObservation) =
    some [some "matching_manifest"] := by
  decide +kernel

end Pool

end CommerceRun
end Pipeline
end LakehouseOps
