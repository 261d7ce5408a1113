import LakehouseOps.Library.Pool
import LakehouseOps.Pipeline.CommerceRunSafety

/-!
# Runs with one journal and one checkpoint

Any number of runs and of commits from the command line share the state files, the lock of the
checkpoint and the journal, and each of them may crash at any point. What they do between
their exchanges with these is not restricted.
-/

namespace LakehouseOps
namespace Pipeline
namespace CommerceRun

open Library Library.Dialogue Ingestion

variable {Seconds Problem : Type}

/-! ## The shared state -/

structure Shared where
  files : PlannerFiles
  /-- The process that holds the lock of the checkpoint. -/
  holder : Option Nat
  /-- `commerce_run_events`, with the run of each row -/
  journal : List (Nat × JournalRow)

/-- The lock is free, or another process has it. -/
def Shared.release (shared : Shared) (process : Nat) : Shared :=
  if shared.holder = some process then { shared with holder := none } else shared

/-- What the shared state makes of an answer. A call that raises has changed nothing, but a
lock is free after its release, whatever that raises. -/
def serve (shared : Shared) (process : Nat) :
    Request Seconds -> Answer Seconds Problem -> Option (Answer Seconds Problem × Shared)
  | .unlock, answer => some (answer, shared.release process)
  | _, .error problem => some (.error problem, shared)
  | .lock, .ok reply =>
      if shared.holder = none then some (.ok reply, { shared with holder := some process })
      else none
  | .readFiles, .ok reply => some (.ok { reply with files := shared.files }, shared)
  | .replaceCheckpoint checkpoint, .ok reply =>
      some (.ok reply, { shared with files := shared.files.replaceCheckpoint checkpoint })
  | .replaceActive entry, .ok reply =>
      some (.ok reply, { shared with files := { shared.files with active := .document entry } })
  | .unlinkActive, .ok reply =>
      some (.ok reply, { shared with files := shared.files.unlinkActive })
  | .journal row, .ok reply =>
      some (.ok reply, { shared with journal := shared.journal ++ [(process, row)] })
  | _, .ok reply => some (.ok reply, shared)

/-- A process: `run-commerce-batch`, or `commit-commerce-batch`. -/
inductive Party (Seconds Problem : Type)
  | run (run : Run Seconds Problem)
  | commit (run : Run Seconds Problem) (batchId : String)

/-- What a row of the journal of a history is. -/
def rowsIn (reached : List Milestone) : List JournalRow :=
  reached.filterMap fun
    | .row row => some row
    | _ => none

/-- The rows of a run, in order. -/
def rowsOfRun (journal : List (Nat × JournalRow)) (process : Nat) : List JournalRow :=
  (journal.filter fun row => row.1 = process).map Prod.snd

/-! ## Locks and reads of a history -/

/-- What an exchange does to the lock. -/
def lockStep (held : Bool) : Request Seconds × Answer Seconds Problem -> Bool
  | (.lock, .ok _) => true
  | (.unlock, _) => false
  | _ => held

/-- The history holds the lock. -/
def holdsLock (history : History Seconds Problem) : Bool :=
  history.foldl lockStep false

/-- What an exchange does to the knowledge of the checkpoint. -/
def knownStep (found : Option (StateFile Checkpoint)) :
    Request Seconds × Answer Seconds Problem -> Option (StateFile Checkpoint)
  | (.lock, .ok _) => none
  | (.unlock, _) => none
  | (.readFiles, .ok reply) => some reply.files.checkpoint
  | (.replaceCheckpoint checkpoint, .ok _) => some (.document checkpoint)
  | _ => found

/-- The content of the checkpoint that a history has read or written since it took the lock. -/
def known (history : History Seconds Problem) : Option (StateFile Checkpoint) :=
  history.foldl knownStep none

@[simp] theorem holdsLock_concat (history : History Seconds Problem)
    (exchange : Request Seconds × Answer Seconds Problem) :
    holdsLock (history ++ [exchange]) = lockStep (holdsLock history) exchange :=
  List.foldl_concat _ _ _ _

@[simp] theorem known_concat (history : History Seconds Problem)
    (exchange : Request Seconds × Answer Seconds Problem) :
    known (history ++ [exchange]) = knownStep (known history) exchange :=
  List.foldl_concat _ _ _ _

/-- A commit that is about to replace the checkpoint: it holds the lock, and what it writes
follows from the content that it has read under the lock. -/
def UnderLock (history : History Seconds Problem) (checkpoint : Checkpoint) : Prop :=
  Exists fun listing : Reply Seconds => Exists fun state : Reply Seconds =>
    Exists fun batchId => Exists fun expected => Exists fun reserved =>
      holdsLock history = true ∧ known history = some state.files.checkpoint ∧
        commitDecision state.files (discover listing.landed) batchId expected =
          .ok (.advance checkpoint reserved)

/-- The guard that every process keeps. -/
def Locked (history : History Seconds Problem) (request : Request Seconds) : Prop :=
  forall checkpoint, request = .replaceCheckpoint checkpoint -> UnderLock history checkpoint

theorem underLock_of_advances [Sub Seconds] [Zero Seconds] [LE Seconds] {budget : Budget Seconds} {entry : BatchEntry}
    {checkpoint : Checkpoint} {history : History Seconds Problem}
    (advances : Advances budget entry checkpoint history) : UnderLock history checkpoint := by
  obtain ⟨before, held, listing, state, created, written, reads, reserved, rfl, decided, reply,
    _, shape⟩ := advances
  refine ⟨listing, state, _, _, reserved, ?_, ?_, decided⟩
  · rw [holdsLock, List.foldl_append, List.foldl_append]
    rcases shape with ⟨_, rfl⟩ | ⟨cycleDeadline, first, _, _, rfl⟩ <;> rfl
  · rw [known, List.foldl_append, List.foldl_append]
    rcases shape with ⟨_, rfl⟩ | ⟨cycleDeadline, first, _, _, rfl⟩ <;> rfl

/-- A request that does not replace the checkpoint. -/
def Plain : Request Seconds -> Prop
  | .replaceCheckpoint _ => False
  | _ => True

theorem locked_of_plain {request : Request Seconds} (plain : Plain request)
    (history : History Seconds Problem) : Locked history request := by
  rintro checkpoint rfl
  exact plain.elim

/-- A part of a process keeps the guard. -/
def KeepsLock {Error Value : Type} (before : History Seconds Problem)
    (part : Dialogue (Request Seconds) (Answer Seconds Problem) Error Value) : Prop :=
  part.Holds Locked (fun _ _ => True) before

section KeepsLock

variable {Error Value Result : Type} {before : History Seconds Problem}

theorem keepsLock_plain {part : Dialogue (Request Seconds) (Answer Seconds Problem) Error Value}
    (sends : part.Sends Plain) : KeepsLock before part :=
  sends.holds (fun history _ _ plain => locked_of_plain plain history)
    (fun _ _ _ _ _ => trivial) trivial

theorem KeepsLock.bind {first : Dialogue (Request Seconds) (Answer Seconds Problem) Error Value}
    {next : Value -> Dialogue (Request Seconds) (Answer Seconds Problem) Error Result}
    (keeps : KeepsLock before first) (rest : forall history value, KeepsLock history (next value)) :
    KeepsLock before (first >>= next) :=
  Holds.bind (Holds.mono keeps fun history outcome _ => by
    cases outcome with
    | ok value => exact rest history value
    | error problem => trivial)

theorem KeepsLock.recover {Failure : Type}
    {part : Dialogue (Request Seconds) (Answer Seconds Problem) Failure Value}
    {next : Except Failure Value -> Dialogue (Request Seconds) (Answer Seconds Problem) Error Result}
    (keeps : KeepsLock before part) (sends : forall outcome, (next outcome).Sends Plain) :
    KeepsLock before (part.recover next) :=
  Holds.recover (Holds.mono keeps fun _ outcome _ => keepsLock_plain (sends outcome))

/-- A call, and what comes after it when it returns. -/
theorem keepsLock_call (request : Request Seconds)
    {next : Reply Seconds -> Step Seconds Problem Value} (locked : Locked before request)
    (rest : forall reply, KeepsLock (before ++ [(request, .ok reply)]) (next reply)) :
    KeepsLock before (call request >>= next) := by
  refine ⟨locked, fun answer => ?_⟩
  cases answer with
  | ok reply => exact rest reply
  | error problem => trivial

theorem keepsLock_plainCall (request : Request Seconds)
    {next : Reply Seconds -> Step Seconds Problem Value} (plain : Plain request)
    (rest : forall reply, KeepsLock (before ++ [(request, .ok reply)]) (next reply)) :
    KeepsLock before (call request >>= next) :=
  keepsLock_call request (locked_of_plain plain before) rest

theorem sends_returns (request : Request Seconds) (plain : Plain request)
    (outcome : Except (RunError Problem) Value) :
    (call request >>= fun _ => attempt outcome : Step Seconds Problem Value).Sends Plain :=
  Sends.bind (sends_call plain) fun _ => sends_attempt outcome

end KeepsLock

/-- The write of a commit from the command line, which looks at no budget. -/
theorem keepsLock_write {before : History Seconds Problem} {checkpoint : Checkpoint}
    (ready : UnderLock before checkpoint) :
    KeepsLock before
      (writeState (.done ()) (.replaceCheckpoint checkpoint) : Step Seconds Problem Unit) := by
  obtain ⟨listing, state, batchId, expected, reserved, holds, isKnown, decided⟩ := ready
  refine keepsLock_plainCall .createTemporary trivial fun created => ?_
  refine KeepsLock.recover (keepsLock_plainCall .writeTemporary trivial fun written => ?_)
    fun outcome => sends_returns .discardTemporary trivial outcome
  refine keepsLock_call (.replaceCheckpoint checkpoint) ?_ fun _ => trivial
  rintro _ ⟨⟩
  refine ⟨listing, state, batchId, expected, reserved, ?_, ?_, decided⟩
  · rw [holdsLock_concat, holdsLock_concat]
    exact holds
  · rw [known_concat, known_concat]
    exact isKnown

/-- A commit from the command line keeps the guard as well. -/
theorem keepsLock_commitWith (run : Run Seconds Problem) (batchId : String)
    (expected : Option String) (before : History Seconds Problem) :
    KeepsLock before (commitWith run (.done ()) batchId expected) := by
  refine KeepsLock.bind (KeepsLock.recover (keepsLock_plainCall .lock trivial
    fun held => ?_) fun outcome => sends_attempt _) fun _ _ => trivial
  refine KeepsLock.recover ?_ fun outcome => sends_returns .unlock trivial outcome
  refine keepsLock_plainCall .discover trivial fun listing => ?_
  refine keepsLock_plainCall .readFiles trivial fun state => ?_
  refine holds_attempt_bind (fun decision isDecision => ?_) fun _ _ => trivial
  cases decision with
  | alreadyProcessed => trivial
  | advance checkpoint reserved =>
      have decided : commitDecision state.files (discover listing.landed) batchId expected =
          .ok (.advance checkpoint reserved) := by
        cases outcome : commitDecision state.files (discover listing.landed) batchId expected with
        | error problem =>
            rw [outcome] at isDecision
            nomatch isDecision
        | ok found =>
            rw [outcome] at isDecision
            exact congrArg Except.ok (Except.ok.inj isDecision)
      refine KeepsLock.bind (keepsLock_write ⟨listing, state, batchId, expected, reserved, ?_, ?_,
        decided⟩) fun history _ => ?_
      · simp only [holdsLock_concat]
        rfl
      · simp only [known_concat]
        rfl
      · by_cases unlinks : reserved = true
        · rw [if_pos unlinks]
          exact keepsLock_plainCall .unlinkActive trivial fun _ => trivial
        · rw [if_neg unlinks]
          trivial

/-! ## Effects -/

/-- What an exchange with a process does to the shared state. -/
inductive Effect (shared : Shared) (process : Nat) :
    Request Seconds -> Answer Seconds Problem -> Shared -> Prop
  | lock (reply : Reply Seconds) (free : shared.holder = none) :
      Effect shared process .lock (.ok reply) { shared with holder := some process }
  | unlock (answer : Answer Seconds Problem) :
      Effect shared process .unlock answer (shared.release process)
  | read (reply : Reply Seconds) (same : reply.files = shared.files) :
      Effect shared process .readFiles (.ok reply) shared
  | replace (checkpoint : Checkpoint) (reply : Reply Seconds) :
      Effect shared process (.replaceCheckpoint checkpoint) (.ok reply)
        { shared with files := shared.files.replaceCheckpoint checkpoint }
  | journal (row : JournalRow) (reply : Reply Seconds) :
      Effect shared process (.journal row) (.ok reply)
        { shared with journal := shared.journal ++ [(process, row)] }
  | replaceActive (entry : BatchEntry) (reply : Reply Seconds) :
      Effect shared process (.replaceActive entry) (.ok reply)
        { shared with files := { shared.files with active := .document entry } }
  | unlinkActive (reply : Reply Seconds) :
      Effect shared process .unlinkActive (.ok reply)
        { shared with files := shared.files.unlinkActive }
  | nothing (exchange : Request Seconds × Answer Seconds Problem)
      (locks : forall held, lockStep held exchange = held)
      (knows : forall found, knownStep found exchange = found)
      (reads : forall reply, exchange ≠ (.readFiles, .ok reply))
      (replaces : forall checkpoint reply, exchange ≠ (.replaceCheckpoint checkpoint, .ok reply))
      (writes : forall row, milestone? exchange ≠ some (.row row)) :
      Effect shared process exchange.1 exchange.2 shared

theorem effect_of_serve {shared later : Shared} {process : Nat} {request : Request Seconds}
    {answer served : Answer Seconds Problem}
    (serves : serve shared process request answer = some (served, later)) :
    Effect shared process request served later := by
  cases answer with
  | error problem =>
      cases request with
      | unlock =>
          cases serves
          exact .unlock _
      | _ =>
          cases serves
          refine .nothing (_, .error problem) (fun _ => rfl) (fun _ => rfl) nofun nofun ?_
          intro row shows
          rw [milestone_of_error] at shows
          nomatch shows
  | ok reply =>
      cases request with
      | lock =>
          rw [serve] at serves
          by_cases free : shared.holder = none
          · rw [if_pos free] at serves
            cases serves
            exact .lock reply free
          · rw [if_neg free] at serves
            nomatch serves
      | unlock =>
          cases serves
          exact .unlock _
      | readFiles =>
          cases serves
          exact .read _ rfl
      | replaceCheckpoint checkpoint =>
          cases serves
          exact .replace checkpoint reply
      | journal row =>
          cases serves
          exact .journal row reply
      | replaceActive entry =>
          cases serves
          exact .replaceActive entry reply
      | unlinkActive =>
          cases serves
          exact .unlinkActive reply
      | query sql =>
          cases serves
          refine .nothing (.query sql, .ok reply) (fun _ => rfl) (fun _ => rfl) nofun nofun ?_
          intro row shows
          dsimp only [milestone?] at shows
          cases isReady : (readGold reply.rows :
              Except (RunError Problem) (Int × Int × Int)) with
          | ok counts =>
              rw [isReady] at shows
              nomatch shows
          | error problem =>
              rw [isReady] at shows
              nomatch shows
      | _ =>
          cases serves
          exact .nothing (_, .ok reply) (fun _ => rfl) (fun _ => rfl) nofun nofun nofun

theorem holder_release {shared : Shared} {process other : Nat}
    (holds : (shared.release process).holder = some other) :
    shared.holder = some other ∧ other ≠ process := by
  unfold Shared.release at holds
  by_cases owns : shared.holder = some process
  · rw [if_pos owns] at holds
    nomatch holds
  · rw [if_neg owns] at holds
    exact ⟨holds, fun same => owns (same ▸ holds)⟩

theorem release_of_holder {shared : Shared} {process other : Nat}
    (holds : shared.holder = some other) (different : other ≠ process) :
    (shared.release process).holder = some other := by
  have others : ¬shared.holder = some process := by
    rw [holds]
    exact fun same => different (Option.some.inj same)
  rw [Shared.release, if_neg others]
  exact holds

theorem rowsOfRun_append (left right : List (Nat × JournalRow)) (process : Nat) :
    rowsOfRun (left ++ right) process = rowsOfRun left process ++ rowsOfRun right process := by
  rw [rowsOfRun, List.filter_append, List.map_append]
  rfl

theorem rowsIn_append (left right : List Milestone) :
    rowsIn (left ++ right) = rowsIn left ++ rowsIn right :=
  List.filterMap_append

section Effect

variable {shared later : Shared} {process : Nat} {request : Request Seconds}
variable {served : Answer Seconds Problem}

theorem Effect.lock_cases (effect : Effect shared process request served later) :
    (later.holder = shared.holder ∧ forall held, lockStep held (request, served) = held) ∨
      (shared.holder = none ∧ later.holder = some process ∧
        forall held, lockStep held (request, served) = true) ∨
      (later.holder = (shared.release process).holder ∧
        forall held, lockStep held (request, served) = false) := by
  cases effect with
  | lock reply free => exact Or.inr (Or.inl ⟨free, rfl, fun _ => rfl⟩)
  | unlock => exact Or.inr (Or.inr ⟨rfl, fun _ => rfl⟩)
  | nothing exchange locks => exact Or.inl ⟨rfl, locks⟩
  | _ => exact Or.inl ⟨rfl, fun _ => rfl⟩

theorem files_release (shared : Shared) (process : Nat) :
    (shared.release process).files = shared.files := by
  unfold Shared.release
  by_cases owns : shared.holder = some process
  · rw [if_pos owns]
  · rw [if_neg owns]

theorem journal_release (shared : Shared) (process : Nat) :
    (shared.release process).journal = shared.journal := by
  unfold Shared.release
  by_cases owns : shared.holder = some process
  · rw [if_pos owns]
  · rw [if_neg owns]

theorem Effect.checkpoint_cases (effect : Effect shared process request served later) :
    later.files.checkpoint = shared.files.checkpoint ∨
      Exists fun checkpoint => request = .replaceCheckpoint checkpoint ∧
        later.files = shared.files.replaceCheckpoint checkpoint := by
  cases effect with
  | unlock => exact Or.inl (congrArg PlannerFiles.checkpoint (files_release shared process))
  | replace checkpoint reply => exact Or.inr ⟨checkpoint, rfl, rfl⟩
  | _ => exact Or.inl rfl

theorem Effect.known_cases (effect : Effect shared process request served later)
    {found : Option (StateFile Checkpoint)} {content : StateFile Checkpoint}
    (isKnown : knownStep found (request, served) = some content) :
    content = later.files.checkpoint ∨ (found = some content ∧
      later.files.checkpoint = shared.files.checkpoint ∧ later.holder = shared.holder) := by
  cases effect with
  | lock => nomatch isKnown
  | unlock => nomatch isKnown
  | read reply same => exact Or.inl (same ▸ (Option.some.inj isKnown).symm)
  | replace checkpoint reply => exact Or.inl (Option.some.inj isKnown).symm
  | nothing exchange locks knows => exact Or.inr ⟨(knows found).symm.trans isKnown, rfl, rfl⟩
  | _ => exact Or.inr ⟨isKnown, rfl, rfl⟩

/-- A row is written by an exchange with its process, and by no other. -/
theorem Effect.rows (effect : Effect shared process request served later) (other : Nat) :
    rowsOfRun later.journal other = rowsOfRun shared.journal other ++
      if other = process then rowsIn (milestone? (request, served)).toList else [] := by
  have silent : forall journal : List (Nat × JournalRow), journal = shared.journal ->
      rowsIn (milestone? (request, served)).toList = [] ->
      rowsOfRun journal other = rowsOfRun shared.journal other ++
        if other = process then rowsIn (milestone? (request, served)).toList else [] := by
    rintro _ rfl none
    rw [none, ite_self, List.append_nil]
  cases effect with
  | journal row reply =>
      rw [rowsOfRun_append]
      refine congrArg _ ?_
      by_cases same : other = process
      · subst same
        rw [if_pos rfl, rowsOfRun, List.filter_singleton, decide_eq_true rfl]
        rfl
      · rw [if_neg same, rowsOfRun, List.filter_singleton, decide_eq_false (Ne.symm same)]
        rfl
  | unlock => exact silent _ (journal_release shared process) rfl
  | nothing exchange locks knows reads replaces writes =>
      refine silent _ rfl ?_
      cases isMilestone : milestone? (exchange.1, exchange.2) with
      | none => rfl
      | some milestone =>
          cases milestone with
          | row row => exact absurd isMilestone (writes row)
          | _ => rfl
  | _ => exact silent _ rfl rfl

theorem Effect.of_read (effect : Effect shared process request served later)
    {reply : Reply Seconds} (reads : (request, served) = (.readFiles, .ok reply)) :
    reply.files = shared.files ∧ later = shared := by
  cases effect with
  | read _ same =>
      cases reads
      exact ⟨same, rfl⟩
  | nothing exchange _ _ never => exact absurd reads (never reply)
  | _ => nomatch reads

theorem Effect.of_replace (effect : Effect shared process request served later)
    {checkpoint : Checkpoint} {reply : Reply Seconds}
    (replaces : (request, served) = (.replaceCheckpoint checkpoint, .ok reply)) :
    later.files = shared.files.replaceCheckpoint checkpoint := by
  cases effect with
  | replace =>
      cases replaces
      rfl
  | nothing exchange _ _ _ never => exact absurd replaces (never checkpoint reply)
  | _ => nomatch replaces

end Effect

/-- What was recorded stays recorded. -/
def Persists (before after : PlannerFiles) : Prop :=
  forall batchId details, before.processed batchId = some details ->
    after.processed batchId = some details

theorem persists_of_checkpoint {before after : PlannerFiles}
    (same : after.checkpoint = before.checkpoint) : Persists before after := by
  intro batchId details recorded
  unfold PlannerFiles.processed at recorded ⊢
  rw [same]
  exact recorded

/-- The checkpoint that a commit writes keeps every record of the one that it has read. -/
theorem persists_of_decision {files : PlannerFiles} {ordered : List CommerceBatch}
    {batchId : String} {expected : Option String} {checkpoint : Checkpoint} {reserved : Bool}
    (decided : commitDecision files ordered batchId expected = .ok (.advance checkpoint reserved))
    {before : PlannerFiles} (same : files.checkpoint = before.checkpoint) :
    Persists before (before.replaceCheckpoint checkpoint) := by
  obtain ⟨state, active, committed, loaded, _, _, _, _, fresh, isRecorded, _⟩ :=
    commitDecision_advance decided
  intro other details recorded
  have written : loadState (before.replaceCheckpoint checkpoint).checkpoint = .ok checkpoint := rfl
  rw [PlannerFiles.processed_eq (same ▸ loaded)] at recorded
  rw [PlannerFiles.processed_eq written, isRecorded, Checkpoint.processed_record_other]
  · exact recorded
  · rintro rfl
    rw [fresh] at recorded
    nomatch recorded

theorem exists_row {history : History Seconds Problem} {row : JournalRow}
    (written : row ∈ rowsIn (milestones history)) :
    Exists fun before => Exists fun reply => Exists fun after =>
      history = before ++ (.journal row, .ok reply) :: after := by
  obtain ⟨milestone, isMilestone, isRow⟩ := List.mem_filterMap.mp written
  obtain ⟨⟨request, answer⟩, isExchange, shows⟩ := List.mem_filterMap.mp isMilestone
  obtain ⟨before, after, split⟩ := List.append_of_mem isExchange
  cases milestone with
  | row other =>
      obtain rfl := Option.some.inj isRow
      cases answer with
      | error problem =>
          rw [milestone_of_error] at shows
          nomatch shows
      | ok reply =>
          cases request with
          | journal recorded =>
              cases shows
              exact ⟨before, reply, after, split⟩
          | query sql =>
              dsimp only [milestone?] at shows
              cases isReady : (readGold reply.rows :
                  Except (RunError Problem) (Int × Int × Int)) with
              | ok counts =>
                  rw [isReady] at shows
                  nomatch shows
              | error problem =>
                  rw [isReady] at shows
                  nomatch shows
          | _ => nomatch shows
  | _ => nomatch isRow

theorem recorded_of_found {files : PlannerFiles} {ordered : List CommerceBatch}
    {batchId manifestSha256 : String}
    (found : commitDecision files ordered batchId (some manifestSha256) = .ok .alreadyProcessed) :
    Exists fun details => files.processed batchId = some details ∧
      details.manifestSha256 = manifestSha256 := by
  unfold commitDecision at found
  cases listed : batchesById ordered batchId with
  | none => rw [listed] at found; nomatch found
  | some batch =>
      simp only [listed, Fallible.bind_eq_ok_iff, Fallible.reject_eq_ok_iff] at found
      obtain ⟨state, loaded, ⟨⟩, verified, ⟨⟩, unchanged, active, _, decided⟩ := found
      by_cases done : (state.processed batchId).isSome
      · obtain ⟨details, recorded⟩ := Option.isSome_iff_exists.mp done
        obtain ⟨committed, isCommitted, same, _⟩ :=
          verifyProcessedContent_eq_ok_iff.mp verified batchId details recorded
        obtain rfl : committed = batch := Option.some.inj (isCommitted.symm.trans listed)
        refine ⟨details, (PlannerFiles.processed_eq loaded batchId).trans recorded, ?_⟩
        rw [same]
        simpa using unchanged
      · rw [if_neg done] at decided
        cases next : active.or (pendingBatches state ordered).head? with
        | none => rw [next] at decided; nomatch decided
        | some nextBatch =>
            simp only [next, Fallible.bind_eq_ok_iff, Fallible.reject_eq_ok_iff] at decided
            obtain ⟨_, _, decided⟩ := decided
            nomatch decided

/-! ## Locks in every interleaving -/

section Pool

variable [Add Seconds] [Sub Seconds] [Min Seconds] [Zero Seconds] [LE Seconds]
  [DecidableLE Seconds]

/-- What the command line runs as a process. -/
def Party.program : Party Seconds Problem -> Step Seconds Problem (Report Seconds)
  | .run settings => runCommerceBatch settings
  | .commit settings batchId =>
      commitWith settings (.done ()) batchId none >>= fun _ => .done .idle

/-- The processes over the shared state; a crash frees the lock. -/
def pool (parties : Nat -> Party Seconds Problem) :
    Pool Shared (Request Seconds) (Answer Seconds Problem) (RunError Problem)
      (Report Seconds) where
  program process := (parties process).program
  serve := serve
  abandon := Shared.release

variable {parties : Nat -> Party Seconds Problem}

abbrev PoolState (Seconds Problem : Type) := Pool.State Shared (Answer Seconds Problem)

/-- Whoever replaces the checkpoint does it under the lock. -/
theorem locked_of_pending {state : PoolState Seconds Problem} {process : Nat}
    {request : Request Seconds}
    (pending : ((parties process).program.run (state.answers process)).pending = some request) :
    Locked ((pool parties).history state process) request := by
  change Locked ((parties process).program.run (state.answers process)).exchanges request
  cases isParty : parties process with
  | run settings =>
      rw [isParty] at pending
      rintro checkpoint rfl
      obtain ⟨budget, batch, reserved, _, _, advances⟩ :=
        ((runCommerceBatch_holds settings).pending pending).replaces checkpoint rfl
      exact underLock_of_advances advances
  | commit settings batchId =>
      rw [isParty] at pending
      have keeps : KeepsLock [] (Party.commit settings batchId).program :=
        (keepsLock_commitWith settings batchId none []).bind fun _ _ => trivial
      exact Holds.pending keeps pending

/-- Who has the lock, and that the checkpoint is as its holder knows it. -/
structure LockKept (parties : Nat -> Party Seconds Problem) (state : PoolState Seconds Problem) :
    Prop where
  holder : forall process, state.store.holder = some process ->
    state.crashed process = false ∧ holdsLock ((pool parties).history state process) = true
  holds : forall process, state.crashed process = false ->
    holdsLock ((pool parties).history state process) = true ->
      state.store.holder = some process
  known : forall process content, state.store.holder = some process ->
    known ((pool parties).history state process) = some content ->
      content = state.store.files.checkpoint

section Turn

variable {state : PoolState Seconds Problem} {process : Nat} {request : Request Seconds}
variable {served : Answer Seconds Problem} {later : Shared}

/-- A replacement is by the holder of the lock, which knows the checkpoint as it is. -/
theorem LockKept.replaces (kept : LockKept parties state) (alive : state.crashed process = false)
    (pending : ((pool parties).program process |>.run (state.answers process)).pending =
      some request)
    {checkpoint : Checkpoint} (replaces : request = .replaceCheckpoint checkpoint) :
    state.store.holder = some process ∧
      Persists state.store.files (state.store.files.replaceCheckpoint checkpoint) := by
  obtain ⟨listing, files, batchId, expected, reserved, holds, isKnown, decided⟩ :=
    locked_of_pending pending checkpoint replaces
  have owns := kept.holds process alive holds
  exact ⟨owns, persists_of_decision decided (kept.known process _ owns isKnown)⟩

theorem LockKept.persists (kept : LockKept parties state) (alive : state.crashed process = false)
    (pending : ((pool parties).program process |>.run (state.answers process)).pending =
      some request)
    (effect : Effect state.store process request served later) :
    Persists state.store.files later.files := by
  rcases effect.checkpoint_cases with same | ⟨checkpoint, replaces, same⟩
  · exact persists_of_checkpoint same
  · rw [same]
    exact (kept.replaces alive pending replaces).2

theorem LockKept.exchange (kept : LockKept parties state) (alive : state.crashed process = false)
    (pending : ((pool parties).program process |>.run (state.answers process)).pending =
      some request)
    (effect : Effect state.store process request served later) :
    LockKept parties (state.answered process served later) := by
  have own := Pool.history_answered_self pending served later
  have others : forall other, other ≠ process ->
      (pool parties).history (state.answered process served later) other =
        (pool parties).history state other :=
    fun other different => Pool.history_answered_other state different served later
  -- Another holder had the lock before.
  have held : forall other, other ≠ process -> later.holder = some other ->
      state.store.holder = some other := by
    intro other different holds
    rcases effect.lock_cases with ⟨same, _⟩ | ⟨_, mine, _⟩ | ⟨released, _⟩
    · exact same ▸ holds
    · exact absurd (Option.some.inj (holds.symm.trans mine)) different
    · exact (holder_release (released ▸ holds)).1
  constructor
  · intro other holds
    by_cases same : other = process
    · subst same
      refine ⟨alive, ?_⟩
      rw [own, holdsLock_concat]
      rcases effect.lock_cases with ⟨same, steps⟩ | ⟨_, _, steps⟩ | ⟨released, _⟩
      · rw [steps]
        exact (kept.holder other (same ▸ holds)).2
      · exact steps _
      · exact absurd rfl (holder_release (released ▸ holds)).2
    · rw [others other same]
      exact kept.holder other (held other same holds)
  · intro other isAlive holds
    by_cases same : other = process
    · subst same
      rw [own, holdsLock_concat] at holds
      rcases effect.lock_cases with ⟨same, steps⟩ | ⟨_, mine, _⟩ | ⟨_, steps⟩
      · rw [steps] at holds
        exact same.trans (kept.holds other alive holds)
      · exact mine
      · rw [steps] at holds
        nomatch holds
    · rw [others other same] at holds
      have owner := kept.holds other isAlive holds
      rcases effect.lock_cases with ⟨same, _⟩ | ⟨free, _⟩ | ⟨released, _⟩
      · exact same.trans owner
      · rw [free] at owner
        nomatch owner
      · exact released.trans (release_of_holder owner same)
  · intro other content holds isKnown
    by_cases same : other = process
    · subst same
      rw [own, known_concat] at isKnown
      rcases effect.known_cases isKnown with written | ⟨found, unchanged, same⟩
      · exact written
      · exact (kept.known other content (same ▸ holds) found).trans unchanged.symm
    · rw [others other same] at isKnown
      have owner := held other same holds
      refine (kept.known other content owner isKnown).trans ?_
      rcases effect.checkpoint_cases with unchanged | ⟨checkpoint, replaces, _⟩
      · exact unchanged.symm
      · have mine := (kept.replaces alive pending replaces).1
        exact absurd (Option.some.inj (owner.symm.trans mine)) same

end Turn

theorem LockKept.crash {state : PoolState Seconds Problem} (kept : LockKept parties state)
    (process : Nat) :
    LockKept parties (state.abandoned process (state.store.release process)) := by
  have held : forall other, (state.store.release process).holder = some other ->
      state.store.holder = some other ∧ other ≠ process := fun _ => holder_release
  constructor
  · intro other holds
    obtain ⟨owner, different⟩ := held other holds
    obtain ⟨alive, holding⟩ := kept.holder other owner
    refine ⟨?_, holding⟩
    change Function.update state.crashed process true other = false
    rw [Function.update_of_ne different]
    exact alive
  · intro other isAlive holds
    have different : other ≠ process := by
      rintro rfl
      change Function.update state.crashed other true other = false at isAlive
      rw [Function.update_self] at isAlive
      nomatch isAlive
    change Function.update state.crashed process true other = false at isAlive
    rw [Function.update_of_ne different] at isAlive
    exact release_of_holder (kept.holds other isAlive holds) different
  · intro other content holds isKnown
    have same := kept.known other content (held other holds).1 isKnown
    exact same.trans (congrArg PlannerFiles.checkpoint (files_release state.store process)).symm

/-! ## The journal and the checkpoint in every interleaving -/

/-- What the histories have read, written and recorded is there. -/
structure Kept (parties : Nat -> Party Seconds Problem) (state : PoolState Seconds Problem) :
    Prop where
  locks : LockKept parties state
  reads : forall process reply,
    (Request.readFiles, Except.ok reply) ∈ (pool parties).history state process ->
      Persists reply.files state.store.files
  writes : forall process checkpoint reply,
    (Request.replaceCheckpoint checkpoint, Except.ok reply) ∈
        (pool parties).history state process ->
      forall batchId details, checkpoint.processed batchId = some details ->
        state.store.files.processed batchId = some details
  journal : forall process, rowsOfRun state.store.journal process =
    rowsIn (milestones ((pool parties).history state process))

theorem Kept.exchange {state : PoolState Seconds Problem} {process : Nat}
    {request : Request Seconds} {served : Answer Seconds Problem} {later : Shared}
    (kept : Kept parties state) (alive : state.crashed process = false)
    (pending : ((pool parties).program process |>.run (state.answers process)).pending =
      some request)
    (effect : Effect state.store process request served later) :
    Kept parties (state.answered process served later) := by
  have own := Pool.history_answered_self pending served later
  have others : forall other, other ≠ process ->
      (pool parties).history (state.answered process served later) other =
        (pool parties).history state other :=
    fun other different => Pool.history_answered_other state different served later
  have persists : Persists state.store.files later.files :=
    kept.locks.persists alive pending effect
  -- An exchange is an earlier one, or the new one.
  have earlier : forall other exchange,
      exchange ∈ (pool parties).history (state.answered process served later) other ->
        exchange ∈ (pool parties).history state other ∨ exchange = (request, served) := by
    intro other exchange member
    by_cases same : other = process
    · subst same
      rw [own] at member
      exact (List.mem_append.mp member).imp_right List.mem_singleton.mp
    · exact Or.inl (others other same ▸ member)
  constructor
  · exact kept.locks.exchange alive pending effect
  · intro other reply member batchId details recorded
    rcases earlier other _ member with before | isNew
    · exact persists batchId details (kept.reads other reply before batchId details recorded)
    · obtain ⟨same, rfl⟩ := effect.of_read isNew.symm
      exact same ▸ recorded
  · intro other checkpoint reply member batchId details recorded
    rcases earlier other _ member with before | isNew
    · exact persists batchId details
        (kept.writes other checkpoint reply before batchId details recorded)
    · have written : loadState later.files.checkpoint = .ok checkpoint := by
        rw [effect.of_replace isNew.symm]
        rfl
      exact (PlannerFiles.processed_eq written batchId).trans recorded
  · intro other
    change rowsOfRun later.journal other = _
    rw [effect.rows other, kept.journal other]
    by_cases same : other = process
    · subst same
      rw [if_pos rfl, own, milestones_last, rowsIn_append]
    · rw [if_neg same, List.append_nil, others other same]

theorem Kept.crash {state : PoolState Seconds Problem} (kept : Kept parties state)
    (process : Nat) : Kept parties (state.abandoned process (state.store.release process)) where
  locks := kept.locks.crash process
  reads other reply member := by
    rw [show (state.abandoned process (state.store.release process)).store.files =
      state.store.files from files_release state.store process]
    exact kept.reads other reply member
  writes other checkpoint reply member := by
    rw [show (state.abandoned process (state.store.release process)).store.files =
      state.store.files from files_release state.store process]
    exact kept.writes other checkpoint reply member
  journal other := by
    rw [show (state.abandoned process (state.store.release process)).store.journal =
      state.store.journal from journal_release state.store process]
    exact kept.journal other

/-- The shared state before any process has started. -/
def startShared (files : PlannerFiles) : Shared where
  files
  holder := none
  journal := []

/-- In every interleaving of the processes, with every crash. -/
theorem kept_run (parties : Nat -> Party Seconds Problem) (files : PlannerFiles)
    (events : List (Pool.Event (Answer Seconds Problem))) :
    Kept parties (((pool parties).machine (startShared files)).run events) := by
  have none : forall process,
      (pool parties).history ((pool parties).machine (startShared files)).initial process = [] :=
    Pool.history_initial (startShared files)
  refine Machine.Preserves.run (Pool.preserves ?_ fun _ process kept => kept.crash process) ?_
    events
  · intro state process request answer served later kept alive pending serves
    exact kept.exchange alive pending (effect_of_serve serves)
  · refine ⟨⟨nofun, ?_, nofun⟩, ?_, ?_, ?_⟩
    · intro process _ holds
      rw [none process] at holds
      nomatch holds
    · intro process reply member
      rw [none process] at member
      exact absurd member List.not_mem_nil
    · intro process checkpoint reply member
      rw [none process] at member
      exact absurd member List.not_mem_nil
    · intro process
      rw [none process]
      rfl

/-- The row of a batch whose record the checkpoint has, with the manifest of the row. -/
def Recorded (files : PlannerFiles) (row : JournalRow) : Prop :=
  Exists fun batchId => Exists fun manifestSha256 => Exists fun details =>
    row.batchId = some batchId ∧ row.manifestSha256 = some manifestSha256 ∧
      files.processed batchId = some details ∧ details.manifestSha256 = manifestSha256

/-- What the journal says of the runs agrees with the checkpoint and with what the runs did. -/
structure Agrees (parties : Nat -> Party Seconds Problem) (state : PoolState Seconds Problem) :
    Prop where
  /-- A commit that the journal has as completed is in the checkpoint. -/
  completed : forall process settings row, parties process = .run settings ->
    row ∈ rowsOfRun state.store.journal process ->
      row.phase = "checkpoint" -> row.event = "completed" -> Recorded state.store.files row
  /-- A run that replaces the checkpoint has its rows up to the commit in the journal. -/
  replaced : forall process settings checkpoint, parties process = .run settings ->
    checkpoint ∈ replacements (milestones ((pool parties).history state process)) ->
      Exists fun batch => Exists fun reserved => Records checkpoint batch.entry ∧
        rowsIn (verifiedTrace settings batch reserved) <+:
          rowsOfRun state.store.journal process
  /-- The rows of a run are in the legal order. -/
  ordered : forall process settings, parties process = .run settings ->
    Exists fun reached => Legal settings reached ∧
      rowsOfRun state.store.journal process = rowsIn reached

theorem Kept.completed {state : PoolState Seconds Problem} (kept : Kept parties state)
    {process : Nat} {settings : Run Seconds Problem} {row : JournalRow}
    (isRun : parties process = .run settings)
    (written : row ∈ rowsOfRun state.store.journal process)
    (isPhase : row.phase = "checkpoint") (isEvent : row.event = "completed") :
    Recorded state.store.files row := by
  rw [kept.journal process] at written
  obtain ⟨before, reply, after, split⟩ := exists_row written
  have sent : ((pool parties).program process |>.run (state.answers process)).Sent before
      (.journal row) := Or.inl ⟨_, after, split⟩
  have program : (pool parties).program process = runCommerceBatch settings := by
    change (parties process).program = _
    rw [isRun]
    rfl
  rw [program] at sent
  obtain ⟨batch, rfl, budget, reserved, _, ended⟩ :=
    ((runCommerceBatch_holds settings).sent _ sent).concludes row rfl isPhase isEvent
  rw [List.nil_append] at ended
  have inHistory : forall exchange, exchange ∈ before ->
      exchange ∈ (pool parties).history state process := by
    intro exchange member
    rw [split]
    exact List.mem_append_left _ member
  rcases ended with ⟨checkpoint, ⟨details, recorded, same⟩, shown⟩ | ⟨_, found⟩
  · have replaces : checkpoint ∈ replacements (milestones before) := by
      rw [shown, replacements_append]
      exact List.mem_append_right _ (List.mem_singleton_self _)
    obtain ⟨earlier, reply, later, rfl⟩ := exists_replacement replaces
    exact ⟨_, _, details, rfl, rfl, kept.writes process checkpoint reply (inHistory _
      (List.mem_append_right _ List.mem_cons_self)) _ details recorded, same⟩
  · obtain ⟨earlier, held, listing, files, released, rfl, decided⟩ := found
    obtain ⟨details, recorded, same⟩ := recorded_of_found decided
    refine ⟨_, _, details, rfl, rfl, kept.reads process files (inHistory _ ?_) _ details recorded,
      same⟩
    simp only [List.mem_append, List.mem_cons, true_or, or_true]

theorem Kept.replaced {state : PoolState Seconds Problem} (kept : Kept parties state)
    {process : Nat} {settings : Run Seconds Problem} {checkpoint : Checkpoint}
    (isRun : parties process = .run settings)
    (replaces : checkpoint ∈ replacements (milestones ((pool parties).history state process))) :
    Exists fun batch => Exists fun reserved => Records checkpoint batch.entry ∧
      rowsIn (verifiedTrace settings batch reserved) <+:
        rowsOfRun state.store.journal process := by
  obtain ⟨before, reply, after, split⟩ := exists_replacement replaces
  have sent : ((pool parties).program process |>.run (state.answers process)).Sent before
      (.replaceCheckpoint checkpoint) := Or.inl ⟨_, after, split⟩
  have program : (pool parties).program process = runCommerceBatch settings := by
    change (parties process).program = _
    rw [isRun]
    rfl
  rw [program] at sent
  obtain ⟨budget, batch, reserved, _, shown, advances⟩ :=
    ((runCommerceBatch_holds settings).sent _ sent).replaces checkpoint rfl
  rw [List.nil_append] at shown advances
  obtain ⟨_, _, _, _, _, _, _, _, _, decided, _⟩ := advances
  obtain ⟨_, _, committed, _, _, _, _, unchanged, _, rfl, _⟩ := commitDecision_advance decided
  refine ⟨batch, reserved, ⟨_, Checkpoint.processed_record_self _ _ _, unchanged _ rfl⟩, ?_⟩
  rw [kept.journal process, split, milestones_append, rowsIn_append, shown]
  exact List.prefix_append _ _

theorem Kept.ordered {state : PoolState Seconds Problem} (kept : Kept parties state)
    {process : Nat} {settings : Run Seconds Problem} (isRun : parties process = .run settings) :
    Exists fun reached => Legal settings reached ∧
      rowsOfRun state.store.journal process = rowsIn reached := by
  refine ⟨milestones ((pool parties).history state process), ?_, kept.journal process⟩
  have program : (pool parties).program process = runCommerceBatch settings := by
    change (parties process).program = _
    rw [isRun]
    rfl
  rw [Pool.history, program]
  exact run_legal settings _

/-- In every interleaving of runs and commits, with any crashes, the journal agrees with the
checkpoint. -/
theorem journal_agrees (parties : Nat -> Party Seconds Problem) (files : PlannerFiles)
    (events : List (Pool.Event (Answer Seconds Problem))) :
    Agrees parties (((pool parties).machine (startShared files)).run events) where
  completed _ _ _ isRun written isPhase isEvent :=
    (kept_run parties files events).completed isRun written isPhase isEvent
  replaced _ _ _ isRun replaces := (kept_run parties files events).replaced isRun replaces
  ordered _ _ isRun := (kept_run parties files events).ordered isRun

end Pool

end CommerceRun
end Pipeline
end LakehouseOps
