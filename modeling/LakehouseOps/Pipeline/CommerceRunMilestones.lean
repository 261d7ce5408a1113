import LakehouseOps.Pipeline.CommerceRun

/-!
# The milestones of a run

The milestones of a run are the rows of its journal, the reservation, the stages that
returned, the answer that the gold table is ready, and the replaced checkpoint. They have one
legal order, and a replacement of the checkpoint has everything behind it that came before.
-/

namespace LakehouseOps
namespace Pipeline
namespace CommerceRun

open Library Library.Dialogue Ingestion

variable {Seconds Problem : Type}

/-! ## Milestones -/

inductive Milestone
  | row (row : JournalRow)
  | reserved (entry : BatchEntry)
  | stage (service : String) (batch : RunBatch)
  | goldReady (sql : String)
  | replaced (checkpoint : Checkpoint)

/-- What an exchange adds to the milestones. -/
def milestone? : Request Seconds × Answer Seconds Problem -> Option Milestone
  | (.journal row, .ok _) => some (.row row)
  | (.replaceActive entry, .ok _) => some (.reserved entry)
  | (.runStage service batch, .ok _) => some (.stage service batch)
  | (.replaceCheckpoint checkpoint, .ok _) => some (.replaced checkpoint)
  | (.query sql, .ok reply) =>
      match (readGold reply.rows : Except (RunError Problem) (Int × Int × Int)) with
      | .ok _ => some (.goldReady sql)
      | .error _ => none
  | _ => none

def milestones (history : History Seconds Problem) : List Milestone :=
  history.filterMap milestone?

/-- A request that never adds a milestone. -/
def Quiet : Request Seconds -> Prop
  | .journal _ | .replaceActive _ | .runStage _ _ | .replaceCheckpoint _ | .query _ => False
  | _ => True

theorem milestones_append (before after : History Seconds Problem) :
    milestones (before ++ after) = milestones before ++ milestones after :=
  List.filterMap_append

theorem milestones_last (before : History Seconds Problem)
    (exchange : Request Seconds × Answer Seconds Problem) :
    milestones (before ++ [exchange]) = milestones before ++ (milestone? exchange).toList := by
  rw [milestones_append]
  unfold milestones
  cases isMilestone : milestone? exchange with
  | none => rw [List.filterMap_cons_none isMilestone, List.filterMap_nil, Option.toList_none]
  | some reached => rw [List.filterMap_cons_some isMilestone, List.filterMap_nil,
      Option.toList_some]

theorem milestone_of_quiet {request : Request Seconds} (quiet : Quiet request)
    (answer : Answer Seconds Problem) : milestone? (request, answer) = none := by
  cases request <;> first | rfl | exact quiet.elim

theorem milestone_of_error (request : Request Seconds) (problem : Problem) :
    milestone? (request, (.error problem : Answer Seconds Problem)) = none := by
  cases request <;> rfl

/-! ## The legal order -/

/-- Rows of the journal, if there is a journal. -/
def rows (run : Run Seconds Problem) (written : List JournalRow) : List Milestone :=
  if run.journaled = true then written.map .row else []

def startedTrace (run : Run Seconds Problem) : List Milestone :=
  rows run [rowOf none "planning" "started" none]

def idleTrace (run : Run Seconds Problem) : List Milestone :=
  startedTrace run ++ rows run [rowOf none "run" "idle" none]

section Trace

variable (run : Run Seconds Problem) (batch : RunBatch) (reserved : Option BatchEntry)

def reservedTrace : List Milestone :=
  startedTrace run ++ reserved.toList.map .reserved

def selectedTrace : List Milestone :=
  reservedTrace run reserved ++ rows run [rowOf (some batch) "planning" "selected" none]

def stageTrace (service : String) : List Milestone :=
  rows run [rowOf (some batch) service "started" none] ++
    (.stage service batch :: rows run [rowOf (some batch) service "completed" none])

/-- Up to the completion of the given stages. -/
def stagedTrace (services : List String) : List Milestone :=
  selectedTrace run batch reserved ++ services.flatMap (stageTrace run batch)

/-- Up to the start of the verification. -/
def verifyingTrace : List Milestone :=
  stagedTrace run batch reserved (stagesOf batch) ++
    rows run [rowOf (some batch) "verification" "started" none]

/-- Up to the answer that the gold table is ready. -/
def goldTrace : List Milestone :=
  verifyingTrace run batch reserved ++ [.goldReady (goldQuery batch.entry.batchId)]

/-- Up to the start of the commit. -/
def verifiedTrace : List Milestone :=
  goldTrace run batch reserved ++
    (rows run [rowOf (some batch) "verification" "completed" none] ++
      rows run [rowOf (some batch) "checkpoint" "started" none])

variable (replaced : Option Checkpoint)

/-- Up to the completion of the commit, which advances the checkpoint or finds it advanced. -/
def committedTrace : List Milestone :=
  verifiedTrace run batch reserved ++ (replaced.toList.map .replaced ++
    rows run [rowOf (some batch) "checkpoint" "completed" none])

def readyTrace : List Milestone :=
  committedTrace run batch reserved replaced ++
    rows run [rowOf (some batch) "run" "ready" none]

end Trace

/-- The milestones of a run that nothing cuts off. -/
inductive Complete (run : Run Seconds Problem) : List Milestone -> Prop
  | idle : Complete run (idleTrace run)
  | ready (batch : RunBatch) (reserved : Option BatchEntry) (replaced : Option Checkpoint) :
      Complete run (readyTrace run batch reserved replaced)

/-- The milestones of a run that has not failed so far. -/
def Unfailed (run : Run Seconds Problem) (reached : List Milestone) : Prop :=
  Exists fun complete => Complete run complete ∧ reached <+: complete

/-- The milestones of a run, which may have failed: then the failure is its last row. -/
def Legal (run : Run Seconds Problem) (reached : List Milestone) : Prop :=
  Unfailed run reached ∨
    Exists fun done => Exists fun row => Unfailed run done ∧ row.event = "failed" ∧
      reached = done ++ rows run [row]

theorem Unfailed.of_shorter {run : Run Seconds Problem} {reached longer : List Milestone}
    (unfailed : Unfailed run longer) (shorter : reached <+: longer) : Unfailed run reached := by
  obtain ⟨complete, isComplete, within⟩ := unfailed
  exact ⟨complete, isComplete, shorter.trans within⟩

section Unfailed

variable (run : Run Seconds Problem) (batch : RunBatch) (reserved : Option BatchEntry)
variable (replaced : Option Checkpoint)

theorem unfailed_started : Unfailed run (startedTrace run) :=
  ⟨_, .idle, List.prefix_append _ _⟩

theorem unfailed_committed : Unfailed run (committedTrace run batch reserved replaced) :=
  ⟨_, .ready batch reserved replaced, List.prefix_append _ _⟩

theorem unfailed_replaced : Unfailed run
    (verifiedTrace run batch reserved ++ replaced.toList.map .replaced) := by
  refine (unfailed_committed run batch reserved replaced).of_shorter ?_
  rw [committedTrace, ← List.append_assoc]
  exact List.prefix_append _ _

theorem unfailed_verified : Unfailed run (verifiedTrace run batch reserved) :=
  (unfailed_committed run batch reserved none).of_shorter (List.prefix_append _ _)

theorem unfailed_gold : Unfailed run (goldTrace run batch reserved) :=
  (unfailed_verified run batch reserved).of_shorter (List.prefix_append _ _)

theorem unfailed_verifying : Unfailed run (verifyingTrace run batch reserved) :=
  (unfailed_gold run batch reserved).of_shorter (List.prefix_append _ _)

theorem unfailed_staged {services : List String} (first : services <+: stagesOf batch) :
    Unfailed run (stagedTrace run batch reserved services) := by
  refine (unfailed_verifying run batch reserved).of_shorter ?_
  obtain ⟨rest, whole⟩ := first
  rw [verifyingTrace, stagedTrace, stagedTrace, ← whole, List.flatMap_append,
    ← List.append_assoc, List.append_assoc]
  exact List.prefix_append _ _

theorem unfailed_selected : Unfailed run (selectedTrace run batch reserved) :=
  (unfailed_staged run batch reserved (List.nil_prefix)).of_shorter (List.prefix_append _ _)

theorem unfailed_reserved : Unfailed run (reservedTrace run reserved) :=
  (unfailed_selected run ⟨⟨0, "", "", ""⟩, none⟩ reserved).of_shorter (List.prefix_append _ _)

theorem stagedTrace_concat (finished : List String) (service : String) :
    stagedTrace run batch reserved (finished ++ [service]) =
      stagedTrace run batch reserved finished ++
        rows run [rowOf (some batch) service "started" none] ++ [.stage service batch] ++
        rows run [rowOf (some batch) service "completed" none] := by
  simp only [stagedTrace, stageTrace, List.flatMap_append, List.flatMap_cons, List.flatMap_nil,
    List.append_nil, List.append_assoc, List.cons_append, List.nil_append]

end Unfailed

/-! ## Replacements -/

def Milestone.replacement? : Milestone -> Option Checkpoint
  | .replaced checkpoint => some checkpoint
  | _ => none

/-- What the milestones replace the checkpoint by. -/
def replacements (reached : List Milestone) : List Checkpoint :=
  reached.filterMap Milestone.replacement?

@[simp] theorem replacements_append (before after : List Milestone) :
    replacements (before ++ after) = replacements before ++ replacements after :=
  List.filterMap_append

@[simp] theorem replacements_rows (run : Run Seconds Problem) (written : List JournalRow) :
    replacements (rows run written) = [] := by
  refine List.filterMap_eq_nil_iff.mpr fun milestone member => ?_
  unfold rows at member
  by_cases journaled : run.journaled = true
  · rw [if_pos journaled] at member
    obtain ⟨row, _, rfl⟩ := List.mem_map.mp member
    rfl
  · rw [if_neg journaled] at member
    exact absurd member List.not_mem_nil

theorem replacements_verified (run : Run Seconds Problem) (batch : RunBatch)
    (reserved : Option BatchEntry) : replacements (verifiedTrace run batch reserved) = [] := by
  have stages : replacements ((stagesOf batch).flatMap (stageTrace run batch)) = [] := by
    refine List.filterMap_eq_nil_iff.mpr fun milestone member => ?_
    obtain ⟨service, _, inStage⟩ := List.mem_flatMap.mp member
    have none : replacements (stageTrace run batch service) = [] := by
      rw [stageTrace, replacements_append, replacements_rows, List.nil_append]
      exact replacements_rows run _
    exact List.filterMap_eq_nil_iff.mp none milestone inStage
  have reservation : replacements (reserved.toList.map .reserved) = [] := by
    cases reserved <;> rfl
  simp only [verifiedTrace, goldTrace, verifyingTrace, stagedTrace, selectedTrace, reservedTrace,
    startedTrace, replacements_append, replacements_rows, stages, reservation, List.append_nil]
  rfl

/-- A legal run replaces the checkpoint at most once. -/
theorem Legal.replacements_length {run : Run Seconds Problem} {reached : List Milestone}
    (legal : Legal run reached) : (replacements reached).length ≤ 1 := by
  have complete : forall whole, Complete run whole -> (replacements whole).length ≤ 1 := by
    intro whole isComplete
    cases isComplete with
    | idle =>
        rw [idleTrace, startedTrace, replacements_append, replacements_rows, replacements_rows]
        exact Nat.zero_le _
    | ready batch reserved replaced =>
        rw [readyTrace, committedTrace]
        simp only [replacements_append, replacements_rows, replacements_verified,
          List.nil_append, List.append_nil]
        cases replaced with
        | none => exact Nat.zero_le _
        | some checkpoint => exact Nat.le_refl _
  have unfailed : forall done, Unfailed run done -> (replacements done).length ≤ 1 := by
    rintro done ⟨whole, isComplete, shorter⟩
    exact ((shorter.sublist.filterMap _).length_le).trans (complete whole isComplete)
  rcases legal with legal | ⟨done, row, legal, _, rfl⟩
  · exact unfailed reached legal
  · rw [replacements_append, replacements_rows, List.append_nil]
    exact unfailed done legal

theorem exists_replacement {history : History Seconds Problem} {checkpoint : Checkpoint}
    (replaced : checkpoint ∈ replacements (milestones history)) :
    Exists fun before => Exists fun reply => Exists fun after =>
      history = before ++ (.replaceCheckpoint checkpoint, .ok reply) :: after := by
  obtain ⟨milestone, isMilestone, isReplacement⟩ := List.mem_filterMap.mp replaced
  obtain ⟨⟨request, answer⟩, isExchange, shows⟩ := List.mem_filterMap.mp isMilestone
  obtain ⟨before, after, split⟩ := List.append_of_mem isExchange
  cases milestone with
  | replaced other =>
      obtain rfl := Option.some.inj isReplacement
      cases answer with
      | error problem =>
          rw [milestone_of_error] at shows
          nomatch shows
      | ok reply =>
          cases request with
          | replaceCheckpoint written =>
              cases shows
              exact ⟨before, reply, after, split⟩
          | query sql =>
              dsimp only [milestone?] at shows
              cases isReady : (readGold reply.rows :
                  Except (RunError Problem) (Int × Int × Int)) with
              | ok counts =>
                  rw [isReady] at shows
                  nomatch shows
              | error problem =>
                  rw [isReady] at shows
                  nomatch shows
          | _ => nomatch shows
  | _ => nomatch isReplacement

theorem replacements_split (before after : History Seconds Problem) (checkpoint : Checkpoint)
    (reply : Reply Seconds) :
    replacements (milestones (before ++ (.replaceCheckpoint checkpoint, .ok reply) :: after)) =
      replacements (milestones before) ++ checkpoint :: replacements (milestones after) := by
  rw [milestones_append, replacements_append]
  rfl

/-! ## What a replacement of the checkpoint has behind it -/

section Evidence

/-- The first batch of the plan of the run. -/
def Planned (entry : BatchEntry) (history : History Seconds Problem) : Prop :=
  Exists fun before => Exists fun listing => Exists fun state => Exists fun after =>
    history = before ++ [(.discover, .ok listing), (.readFiles, .ok state)] ++ after ∧
      Exists fun chosen => plan state.files (discover listing.landed) 1 [] = .ok chosen ∧
        chosen.batches.head? = some entry

/-- The reservation under the lock, which is written unless it is there. -/
def Reserves (entry : BatchEntry) (reserved : Option BatchEntry)
    (history : History Seconds Problem) : Prop :=
  Exists fun before => Exists fun held => Exists fun listing => Exists fun state =>
    Exists fun after =>
      history = before ++ [(.lock, .ok held), (.discover, .ok listing), (.readFiles, .ok state)] ++
          after ∧
        reservation state.files (discover listing.landed) entry = .ok reserved

/-- The execution options of the batch. -/
def Resolved (batch : RunBatch) (history : History Seconds Problem) : Prop :=
  Exists fun before => Exists fun listing => Exists fun state => Exists fun after =>
    history = before ++ [(.discover, .ok listing), (.readFiles, .ok state)] ++ after ∧
      executionOptions state.files (discover listing.landed) batch.entry =
        .ok batch.customerHistoryMode

/-- The checkpoint has the record of a batch with its manifest. -/
def Records (checkpoint : Checkpoint) (entry : BatchEntry) : Prop :=
  Exists fun details => checkpoint.processed entry.batchId = some details ∧
    details.manifestSha256 = entry.manifestSha256

/-- A commit that found the batch processed. -/
def FoundProcessed (entry : BatchEntry) (history : History Seconds Problem) : Prop :=
  Exists fun before => Exists fun held => Exists fun listing => Exists fun state =>
    Exists fun released =>
      history = before ++ [(.lock, .ok held), (.discover, .ok listing), (.readFiles, .ok state),
          (.unlock, .ok released)] ∧
        commitDecision state.files (discover listing.landed) entry.batchId
          (some entry.manifestSha256) = .ok .alreadyProcessed

theorem Planned.later {entry : BatchEntry} {history longer : History Seconds Problem}
    (isPlanned : Planned entry history) (later : history <+: longer) : Planned entry longer := by
  obtain ⟨before, listing, state, after, rfl, chosen⟩ := isPlanned
  obtain ⟨rest, rfl⟩ := later
  exact ⟨before, listing, state, after ++ rest, List.append_assoc _ _ _, chosen⟩

theorem Reserves.later {entry : BatchEntry} {reserved : Option BatchEntry}
    {history longer : History Seconds Problem} (reserves : Reserves entry reserved history)
    (later : history <+: longer) : Reserves entry reserved longer := by
  obtain ⟨before, held, listing, state, after, rfl, decided⟩ := reserves
  obtain ⟨rest, rfl⟩ := later
  exact ⟨before, held, listing, state, after ++ rest, List.append_assoc _ _ _, decided⟩

theorem Resolved.later {batch : RunBatch} {history longer : History Seconds Problem}
    (resolved : Resolved batch history) (later : history <+: longer) : Resolved batch longer := by
  obtain ⟨before, listing, state, after, rfl, chosen⟩ := resolved
  obtain ⟨rest, rfl⟩ := later
  exact ⟨before, listing, state, after ++ rest, List.append_assoc _ _ _, chosen⟩

/-- A point of a run, by what came first and by the milestones so far. -/
structure At (base : History Seconds Problem) (reached : List Milestone)
    (history : History Seconds Problem) : Prop where
  later : base <+: history
  shown : milestones history = reached

variable {base : History Seconds Problem} {reached : List Milestone}

theorem At.unfailed {run : Run Seconds Problem} {history : History Seconds Problem} (here : At base reached history)
    (unfailed : Unfailed run reached) : Unfailed run (milestones history) :=
  here.shown ▸ unfailed

theorem At.append {history : History Seconds Problem} (here : At base reached history)
    {exchanges : History Seconds Problem} {shown : List Milestone}
    (adds : milestones exchanges = shown) : At base (reached ++ shown) (history ++ exchanges) where
  later := here.later.trans (List.prefix_append _ _)
  shown := by rw [milestones_append, here.shown, adds]

theorem At.silent {history : History Seconds Problem} (here : At base reached history)
    {exchanges : History Seconds Problem} (adds : milestones exchanges = []) :
    At base reached (history ++ exchanges) := by
  have later := here.append adds
  rw [List.append_nil] at later
  exact later

theorem sends_call {allowed : Request Seconds -> Prop} {request : Request Seconds}
    (isAllowed : allowed request) :
    (call request : Step Seconds Problem (Reply Seconds)).Sends allowed :=
  ⟨isAllowed, fun answer => sends_attempt (answer.mapError RunError.raised)⟩

theorem sends_reject {allowed : Request Seconds -> Prop} {condition : Prop}
    [Decidable condition] {problem : RunError Problem} :
    (reject condition problem : Step Seconds Problem Unit).Sends allowed := by
  unfold reject
  by_cases holds : condition
  · rw [if_pos holds]
    trivial
  · rw [if_neg holds]
    trivial

theorem remainingSeconds_quiet [Sub Seconds] [Zero Seconds] [LE Seconds] [DecidableLE Seconds]
    (budget : Budget Seconds) :
    (remainingSeconds budget : Step Seconds Problem Seconds).Sends Quiet := by
  refine Sends.bind ?_ fun _ => Sends.bind sends_reject fun _ => trivial
  unfold budgetClock
  cases budget.cycleDeadline with
  | none => exact Sends.bind (sends_call trivial) fun _ => trivial
  | some cycleDeadline =>
      exact Sends.bind (sends_call trivial) fun _ => Sends.bind sends_reject fun _ =>
        Sends.bind (sends_call trivial) fun _ => trivial

variable [Add Seconds] [Sub Seconds] [Min Seconds] [Zero Seconds] [LE Seconds]

/-- The budget follows from the settings and the first reads of the clocks. -/
def Budgeted (run : Run Seconds Problem) (budget : Budget Seconds)
    (history : History Seconds Problem) : Prop :=
  Exists fun timeout => Exists fun started =>
    commerceRunTimeoutSeconds run = .ok timeout ∧
      ((inheritedDeadline run = .ok none ∧ [(Request.clock, .ok started)] <+: history ∧
          budget = {
            deadline := started.seconds + run.numbers.ofInt timeout
            cycleDeadline := none }) ∨
        Exists fun cycleDeadline => Exists fun now =>
          inheritedDeadline run = .ok (some cycleDeadline) ∧
            [(Request.clock, .ok started), (Request.monotonic, .ok now)] <+: history ∧
            ¬cycleDeadline - now.seconds ≤ 0 ∧
            budget = {
              deadline := min (started.seconds + run.numbers.ofInt timeout)
                (started.seconds + (cycleDeadline - now.seconds))
              cycleDeadline := some cycleDeadline })

/-- A look at the budget that leaves time. -/
def BudgetLeft (budget : Budget Seconds) (reads : History Seconds Problem) : Prop :=
  Exists fun reply => ¬budget.deadline - reply.seconds ≤ 0 ∧
    ((budget.cycleDeadline = none ∧ reads = [(.clock, .ok reply)]) ∨
      Exists fun cycleDeadline => Exists fun now =>
        budget.cycleDeadline = some cycleDeadline ∧ ¬cycleDeadline ≤ now.seconds ∧
          reads = [(.monotonic, .ok now), (.clock, .ok reply)])

theorem Budgeted.later {run : Run Seconds Problem} {budget : Budget Seconds}
    {history longer : History Seconds Problem} (budgeted : Budgeted run budget history)
    (later : history <+: longer) : Budgeted run budget longer := by
  obtain ⟨timeout, started, isTimeout, ⟨alone, first, same⟩ |
    ⟨cycleDeadline, now, inherited, first, left, same⟩⟩ := budgeted
  · exact ⟨timeout, started, isTimeout, Or.inl ⟨alone, first.trans later, same⟩⟩
  · exact ⟨timeout, started, isTimeout, Or.inr
      ⟨cycleDeadline, now, inherited, first.trans later, left, same⟩⟩

/-- What the run knows of its batch when its stages start. -/
structure Prepared (run : Run Seconds Problem) (budget : Budget Seconds) (batch : RunBatch)
    (reserved : Option BatchEntry) (history : History Seconds Problem) : Prop where
  budgeted : Budgeted run budget history
  planned : Planned batch.entry history
  reserves : Reserves batch.entry reserved history
  resolved : Resolved batch history

theorem Prepared.later {run : Run Seconds Problem} {budget : Budget Seconds} {batch : RunBatch}
    {reserved : Option BatchEntry} {history longer : History Seconds Problem}
    (prepared : Prepared run budget batch reserved history) (later : history <+: longer) :
    Prepared run budget batch reserved longer where
  budgeted := prepared.budgeted.later later
  planned := prepared.planned.later later
  reserves := prepared.reserves.later later
  resolved := prepared.resolved.later later

/-- The end of a commit that is about to replace the checkpoint: under the lock it has read
the listing and the state files, the decision was to advance, and a last look at the budget
left time. -/
def Advances (budget : Budget Seconds) (entry : BatchEntry) (checkpoint : Checkpoint)
    (history : History Seconds Problem) : Prop :=
  Exists fun before => Exists fun held => Exists fun listing => Exists fun state =>
    Exists fun created => Exists fun written => Exists fun reads => Exists fun reserved =>
      history = before ++ [(.lock, .ok held), (.discover, .ok listing), (.readFiles, .ok state),
          (.createTemporary, .ok created), (.writeTemporary, .ok written)] ++ reads ∧
        commitDecision state.files (discover listing.landed) entry.batchId
          (some entry.manifestSha256) = .ok (.advance checkpoint reserved) ∧
        BudgetLeft budget reads

/-- Everything that comes before a replacement of the checkpoint. -/
def ReadyToReplace (run : Run Seconds Problem) (history : History Seconds Problem)
    (checkpoint : Checkpoint) : Prop :=
  Exists fun budget => Exists fun batch => Exists fun reserved =>
    Prepared run budget batch reserved history ∧
      milestones history = verifiedTrace run batch reserved ∧
      Advances budget batch.entry checkpoint history

/-- What a run that says that its commit is complete has done. -/
def Concluded (run : Run Seconds Problem) (batch : RunBatch)
    (history : History Seconds Problem) : Prop :=
  Exists fun budget => Exists fun reserved =>
    Prepared run budget batch reserved history ∧
      ((Exists fun checkpoint => Records checkpoint batch.entry ∧
          milestones history = verifiedTrace run batch reserved ++ [.replaced checkpoint]) ∨
        (milestones history = verifiedTrace run batch reserved ∧
          FoundProcessed batch.entry history))

/-- What holds before every request of a run. -/
structure Guarded (run : Run Seconds Problem) (history : History Seconds Problem)
    (request : Request Seconds) : Prop where
  legal : Legal run (milestones history)
  replaces : forall checkpoint, request = .replaceCheckpoint checkpoint ->
    ReadyToReplace run history checkpoint
  concludes : forall row, request = .journal row -> row.phase = "checkpoint" ->
    row.event = "completed" -> Exists fun batch =>
      row = rowOf (some batch) "checkpoint" "completed" none ∧ Concluded run batch history

end Evidence

end CommerceRun
end Pipeline
end LakehouseOps
