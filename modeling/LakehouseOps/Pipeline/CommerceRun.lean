import LakehouseOps.Ingestion.CommerceManifest
import LakehouseOps.Ingestion.PlannerRules
import LakehouseOps.Library.Dialogue

/-!
# A run of the commerce pipeline

A run plans one batch, reserves it, runs the stages of the batch, asks the gold table whether
it is ready, and commits the batch to the checkpoint, with a journal of what it does. Clocks,
object storage, state files, stages, queries and the journal are its environment: each of them
may answer anything or raise.
-/

namespace LakehouseOps
namespace Pipeline
namespace CommerceRun

open Library Library.Dialogue Ingestion

variable {Seconds Problem : Type}

/-! ## The environment -/

/-- A batch as the stages get it: an entry of a plan, with the execution options. -/
structure RunBatch where
  entry : BatchEntry
  customerHistoryMode : Option CustomerHistoryMode
  deriving DecidableEq

/-- A row of `commerce_run_events`. -/
structure JournalRow where
  batchId : Option String
  manifestSha256 : Option String
  phase : String
  event : String
  errorType : Option String
  deriving DecidableEq

inductive Request (Seconds : Type)
  /-- The clock of the run. -/
  | clock
  /-- `time.monotonic()` -/
  | monotonic
  | journal (row : JournalRow)
  /-- All reads of `discover`. -/
  | discover
  /-- The two state files. -/
  | readFiles
  | lock
  | unlock
  | createTemporary
  /-- Write the temporary file, flush and sync. -/
  | writeTemporary
  | replaceCheckpoint (checkpoint : Checkpoint)
  | replaceActive (entry : BatchEntry)
  | discardTemporary
  | unlinkActive
  | runStage (service : String) (batch : RunBatch)
  | query (sql : String)
  | sleep (seconds : Seconds)

/-- What is answered: a time, a listing, the state files, or rows. -/
structure Reply (Seconds : Type) where
  seconds : Seconds
  landed : List CommerceBatch
  files : PlannerFiles
  rows : List Json

abbrev Answer (Seconds Problem : Type) := Except Problem (Reply Seconds)

abbrev History (Seconds Problem : Type) := Exchanges (Request Seconds) (Answer Seconds Problem)

/-- What ends a run: an exception of its environment, or one of its own. -/
inductive RunError (Problem : Type)
  | raised (problem : Problem)
  | pipeline (message : String)
  | batch (error : CommerceBatchError)
  | gate (message : String)

/-- What the handlers ask about an exception. -/
structure Exceptions (Problem : Type) where
  /-- `type(error).__name__` -/
  typeName : Problem -> String
  isRunnerBusy : Problem -> Bool
  isTransportError : Problem -> Bool
  isHttpError : Problem -> Bool
  isProtocolError : Problem -> Bool
  isQueryError : Problem -> Bool
  /-- The status code of the `httpx.HTTPStatusError` that caused it. -/
  causeStatus : Problem -> Option Int

/-- Seconds as Python computes with them. -/
structure Numbers (Seconds : Type) where
  ofInt : Int -> Seconds
  isFinite : Seconds -> Bool
  parseInt : String -> Option Int
  parseFloat : String -> Option Seconds

/-- The arguments of a run, with the settings that it reads from its environment variables. -/
structure Run (Seconds Problem : Type) where
  exceptions : Exceptions Problem
  numbers : Numbers Seconds
  runTimeout : Option String
  cycleDeadline : Option String
  attempts : Int
  delaySeconds : Seconds
  journaled : Bool
  statePath : String

/-- A part of a run. -/
abbrev Step (Seconds Problem Value : Type) :=
  Dialogue (Request Seconds) (Answer Seconds Problem) (RunError Problem) Value

/-- A call of the environment. -/
def call (request : Request Seconds) : Step Seconds Problem (Reply Seconds) :=
  .ask request fun answer => attempt (answer.mapError .raised)

variable [Add Seconds] [Sub Seconds] [Min Seconds] [Zero Seconds] [LE Seconds]
  [DecidableLE Seconds]

/-! ## Time budget -/

/-- The content of `_RUN_BUDGET`; the deadline of the cycle is there when it was inherited. -/
structure Budget (Seconds : Type) where
  deadline : Seconds
  cycleDeadline : Option Seconds

def exhausted : RunError Problem :=
  .pipeline "commerce run time budget exhausted; checkpoint not advanced"

/-- `int(os.environ.get(setting, default))`, between 1 and a day -/
def timeoutSetting (parseInt : String -> Option Int) (setting : String) (value : Option String)
    (default : String) : Except (RunError Problem) Int :=
  match parseInt (value.getD default) with
  | none => .error (.pipeline (setting ++ " must be an integer"))
  | some timeout =>
      if 1 ≤ timeout ∧ timeout ≤ 86400 then .ok timeout
      else .error (.pipeline (setting ++ " must be between 1 and 86400"))

/-- `commerce_run_timeout_seconds` -/
def commerceRunTimeoutSeconds (run : Run Seconds Problem) : Except (RunError Problem) Int :=
  timeoutSetting run.numbers.parseInt "COMMERCE_RUN_TIMEOUT_SECONDS" run.runTimeout "3600"

/-- The clock of the budget: the inherited deadline first, and then the clock of the run. -/
def budgetClock (budget : Budget Seconds) : Step Seconds Problem Seconds :=
  match budget.cycleDeadline with
  | none => call .clock >>= fun reply => .done reply.seconds
  | some cycleDeadline => do
      let now <- call .monotonic
      reject (cycleDeadline ≤ now.seconds) exhausted
      let reply <- call .clock
      return reply.seconds

/-- `commerce_remaining_seconds` -/
def remainingSeconds (budget : Budget Seconds) : Step Seconds Problem Seconds := do
  let now <- budgetClock budget
  reject (budget.deadline - now ≤ 0) exhausted
  return budget.deadline - now

/-- The deadline of the cycle that started the run. -/
def inheritedDeadline (run : Run Seconds Problem) :
    Except (RunError Problem) (Option Seconds) :=
  match run.cycleDeadline with
  | none => .ok none
  | some inherited =>
      match run.numbers.parseFloat inherited with
      | none => .error (.pipeline "invalid inherited commerce cycle deadline")
      | some cycleDeadline =>
          if run.numbers.isFinite cycleDeadline = true then .ok (some cycleDeadline)
          else .error (.pipeline "invalid inherited commerce cycle deadline")

/-- The budget of a run that has started at a time of its clock. -/
def runBudget (run : Run Seconds Problem) (timeout : Int) (started : Seconds) :
    Step Seconds Problem (Budget Seconds) := do
  let deadline := started + run.numbers.ofInt timeout
  let inherited <- attempt (inheritedDeadline run)
  match inherited with
  | none => return { deadline, cycleDeadline := none }
  | some cycleDeadline => do
      let now <- call .monotonic
      let remaining := cycleDeadline - now.seconds
      reject (remaining ≤ 0) exhausted
      return { deadline := min deadline (started + remaining), cycleDeadline }

/-! ## Calls of the planner -/

/-- A computation of the planner. -/
def planned {Value : Type} (outcome : Except CommerceBatchError Value) :
    Step Seconds Problem Value :=
  attempt (outcome.mapError .batch)

/-- `planner.plan(max_batches=1)` -/
def planBatches : Step Seconds Problem Plan := do
  let listing <- call .discover
  let state <- call .readFiles
  planned (plan state.files (discover listing.landed) 1 [])

/-- `planner.execution_options` -/
def resolveOptions (entry : BatchEntry) : Step Seconds Problem (Option CustomerHistoryMode) := do
  let listing <- call .discover
  let state <- call .readFiles
  planned (executionOptions state.files (discover listing.landed) entry)

/-- `except CommerceRunnerBusyError` -/
def busyCheckpoint (run : Run Seconds Problem) : RunError Problem -> RunError Problem
  | .raised problem =>
      if run.exceptions.isRunnerBusy problem = true then
        .batch ⟨"commerce checkpoint is busy: " ++ run.statePath⟩
      else .raised problem
  | error => error

/-- The end of a body that holds the lock; what the release raises comes instead. -/
def release {Value : Type} (outcome : Except (RunError Problem) Value) :
    Step Seconds Problem Value :=
  call .unlock >>= fun _ => attempt outcome

/-- A body under `commerce_runner_lock`. -/
def withLock {Value : Type} (run : Run Seconds Problem) (body : Step Seconds Problem Value) :
    Step Seconds Problem Value :=
  (call .lock >>= fun _ => body.recover release).mapFail (busyCheckpoint run)

/-- The removal of the temporary file, whatever the write has come to. -/
def discardTemporary {Value : Type} (outcome : Except (RunError Problem) Value) :
    Step Seconds Problem Value :=
  call .discardTemporary >>= fun _ => attempt outcome

/-- `_write_state` -/
def writeState (beforeReplace : Step Seconds Problem Unit) (replacement : Request Seconds) :
    Step Seconds Problem Unit := do
  let _ <- call .createTemporary
  (do
    let _ <- call .writeTemporary
    beforeReplace
    let _ <- call replacement
    return ()).recover discardTemporary

/-- What `begin` writes: the reservation of the next batch, when there is none. -/
def reservation (files : PlannerFiles) (ordered : List CommerceBatch) (selected : BatchEntry) :
    Except CommerceBatchError (Option BatchEntry) := do
  let after <- begin files ordered selected
  let state <- loadState files.checkpoint
  let active <- activeBatch files.active state (batchesById ordered)
  match active, after.active with
  | none, .document entry => return some entry
  | _, _ => return none

/-- `planner.begin` -/
def beginBatch (run : Run Seconds Problem) (entry : BatchEntry) : Step Seconds Problem Unit :=
  withLock run do
    let listing <- call .discover
    let state <- call .readFiles
    let reserved <- planned (reservation state.files (discover listing.landed) entry)
    match reserved with
    | none => return ()
    | some reserved => writeState (.done ()) (.replaceActive reserved)

/-- The rest of a commit after its decision; tells whether the checkpoint was advanced. -/
def carryOut (beforeReplace : Step Seconds Problem Unit) :
    CommitDecision -> Step Seconds Problem Bool
  | .alreadyProcessed => .done false
  | .advance checkpoint reserved => do
      writeState beforeReplace (.replaceCheckpoint checkpoint)
      if reserved = true then
        let _ <- call .unlinkActive
        return true
      else return true

/-- `planner.commit`, with the check of the budget if there is one -/
def commitWith (run : Run Seconds Problem) (beforeReplace : Step Seconds Problem Unit)
    (batchId : String) (expectedManifestSha256 : Option String) :
    Step Seconds Problem CommitResult := do
  let created <- withLock run do
    let listing <- call .discover
    let state <- call .readFiles
    let decision <- planned (commitDecision state.files (discover listing.landed) batchId
      expectedManifestSha256)
    carryOut beforeReplace decision
  return { batchId, created, state := run.statePath }

/-- The commit of a run. -/
def commitBatch (run : Run Seconds Problem) (budget : Budget Seconds) (entry : BatchEntry) :
    Step Seconds Problem CommitResult :=
  commitWith run (remainingSeconds budget >>= fun _ => .done ()) entry.batchId
    (some entry.manifestSha256)

/-! ## The gold gate -/

/-- `CommerceGoldReport` -/
structure GoldReport where
  batchId : String
  days : Int
  orders : Int
  capturedRevenueCents : Int
  deriving DecidableEq

/-- The query of `check_commerce_gold`. -/
def goldQuery (batchId : String) : String :=
  "SELECT count(*) AS days, " ++
    "coalesce(sum(order_count), 0) AS orders, " ++
    "coalesce(sum(captured_revenue_cents), 0) AS captured_revenue_cents, " ++
    "count_if(order_count IS NULL OR order_count <= 0 OR " ++
    "captured_revenue_cents IS NULL OR captured_revenue_cents < 0) AS invalid_days " ++
    "FROM lakehouse.gold.commerce_daily WHERE source_batch_id = '" ++ batchId ++ "'"

/-- `_non_negative_int` of a field -/
def nonNegativeInt (row : Entries) (name : String) : Except (RunError Problem) Int :=
  match row.lookup name with
  | some (.int value) =>
      if value < 0 then .error (.gate ("Trino commerce gold field " ++ name ++ " is invalid"))
      else .ok value
  | _ => .error (.gate ("Trino commerce gold field " ++ name ++ " is invalid"))

/-- The checks of the one row of the query: days, orders and captured revenue. -/
def readGoldRow (row : Entries) : Except (RunError Problem) (Int × Int × Int) := do
  let days <- nonNegativeInt row "days"
  let orders <- nonNegativeInt row "orders"
  let revenue <- nonNegativeInt row "captured_revenue_cents"
  let invalidDays <- nonNegativeInt row "invalid_days"
  Fallible.reject (days = 0 ∨ orders = 0 ∨ invalidDays ≠ 0)
    (.gate s!"commerce gold batch is not ready: days={days}, orders={orders}, invalid_days={invalidDays}")
  return (days, orders, revenue)

/-- The part of `check_commerce_gold` after the query. -/
def readGold : List Json -> Except (RunError Problem) (Int × Int × Int)
  | [.object row] => readGoldRow row
  | _ => .error (.gate "Trino returned an unexpected commerce gold result")

/-- `check_commerce_gold`, over the query that looks at the budget first. -/
def checkCommerceGold (budget : Budget Seconds) (batchId : String) :
    Step Seconds Problem GoldReport := do
  reject (isHex 16 batchId = false) (.gate "batch ID must be 16 lowercase hexadecimal characters")
  let _ <- remainingSeconds budget
  let answer <- call (.query (goldQuery batchId))
  let (days, orders, capturedRevenueCents) <- attempt (readGold answer.rows)
  return { batchId, days, orders, capturedRevenueCents }

/-- `validate_commerce_gold_retry` -/
def validateCommerceGoldRetry (run : Run Seconds Problem) : Except (RunError Problem) Unit := do
  Fallible.reject (¬(1 ≤ run.attempts ∧ run.attempts ≤ 5))
    (.gate "attempts must be an integer between 1 and 5")
  Fallible.reject (run.numbers.isFinite run.delaySeconds = false ∨
      ¬(0 ≤ run.delaySeconds ∧ run.delaySeconds ≤ run.numbers.ofInt 60))
    (.gate "delay_seconds must be finite and between 0 and 60")

/-- An error after which the query is sent again. -/
def isRetryable (exceptions : Exceptions Problem) : RunError Problem -> Bool
  | .raised problem =>
      exceptions.isTransportError problem ||
        (exceptions.isProtocolError problem &&
          decide (exceptions.causeStatus problem ∈
            [some 429, some 502, some 503, some 504]))
  | _ => false

/-- The sleep between two attempts, within the budget. -/
def boundedSleep (run : Run Seconds Problem) (budget : Budget Seconds) :
    Step Seconds Problem Unit := do
  let remaining <- remainingSeconds budget
  let _ <- call (.sleep (min run.delaySeconds remaining))
  let _ <- remainingSeconds budget
  return ()

/-- The loop of `check_commerce_gold_with_retry`, by the number of attempts that are left
after the next one. -/
def checkWithRetry (run : Run Seconds Problem) (budget : Budget Seconds) (batchId : String) :
    Nat -> Step Seconds Problem GoldReport
  | 0 => checkCommerceGold budget batchId
  | left + 1 =>
      (checkCommerceGold budget batchId).recover fun
        | .ok report => .done report
        | .error error =>
            if isRetryable run.exceptions error = true then
              boundedSleep run budget >>= fun _ => checkWithRetry run budget batchId left
            else .fail error

/-- `check_commerce_gold_with_retry` -/
def checkCommerceGoldWithRetry (run : Run Seconds Problem) (budget : Budget Seconds)
    (batchId : String) : Step Seconds Problem GoldReport := do
  attempt (validateCommerceGoldRetry run)
  checkWithRetry run budget batchId (run.attempts.toNat - 1)

/-- The errors of the verification that come as a failed stage. -/
def failedVerification (run : Run Seconds Problem) : RunError Problem -> RunError Problem
  | .gate _ => .pipeline "commerce stage failed: verify-commerce-gold"
  | .raised problem =>
      if run.exceptions.isHttpError problem || run.exceptions.isProtocolError problem ||
          run.exceptions.isQueryError problem then
        .pipeline "commerce stage failed: verify-commerce-gold"
      else .raised problem
  | error => error

/-! ## The journal -/

/-- The variables of a journal. -/
structure Journal where
  phase : String
  batch : Option RunBatch

def newJournal : Journal where
  phase := "planning"
  batch := none

/-- A row as `record` writes it. -/
def rowOf (batch : Option RunBatch) (phase event : String) (errorType : Option String) :
    JournalRow where
  batchId := batch.map fun batch => batch.entry.batchId
  manifestSha256 := batch.map fun batch => batch.entry.manifestSha256
  phase
  event
  errorType

/-- A part of a run with a journal; an error comes with the journal as it is by then. -/
abbrev Traced (Seconds Problem Value : Type) :=
  Dialogue (Request Seconds) (Answer Seconds Problem) (Journal × RunError Problem) Value

/-- A part that leaves the journal alone. -/
def within {Value : Type} (journal : Journal) (step : Step Seconds Problem Value) :
    Traced Seconds Problem Value :=
  step.mapFail fun error => (journal, error)

/-- `journal.record`, if there is a journal. -/
def record (run : Run Seconds Problem) (batch : Option RunBatch) (phase event : String) :
    Traced Seconds Problem Journal :=
  if run.journaled = true then
    within { phase, batch } (call (.journal (rowOf batch phase event none)) >>= fun _ =>
      .done { phase, batch })
  else .done { phase, batch }

/-! ## The run -/

/-- `COMMERCE_STAGES` -/
def commerceStages : List String :=
  ["bronze-input-sync", "spark-commerce-bronze", "spark-commerce-payment-silver",
    "spark-commerce-order-silver", "spark-commerce-product-silver",
    "spark-commerce-customer-silver", "spark-commerce-customer-scd2",
    "spark-commerce-daily-gold"]

/-- `CURRENT_STAGE` -/
def currentStage : String :=
  "spark-commerce-current-gold"

/-- The stages of a batch: the current mart comes last, and for a full snapshot only. -/
def stagesOf (batch : RunBatch) : List String :=
  match batch.customerHistoryMode with
  | none => commerceStages
  | some _ => commerceStages ++ [currentStage]

structure Durations (Seconds : Type) where
  planning : Seconds
  stages : List (String × Seconds)
  verification : Seconds
  checkpoint : Seconds
  total : Seconds

/-- What a run returns. -/
inductive Report (Seconds : Type)
  | idle
  | ready (batchId : String) (completedStages : List String) (verification : GoldReport)
      (checkpoint : CommitResult) (durations : Durations Seconds)

/-- `report["status"]` -/
def Report.status : Report Seconds -> String
  | .idle => "idle"
  | .ready _ _ _ _ _ => "ready"

/-- The loop over the stages: when it ended, and how long each stage took. -/
def runStages (run : Run Seconds Problem) (budget : Budget Seconds) (batch : RunBatch) :
    Journal -> Seconds -> List String ->
      Traced Seconds Problem (Journal × Seconds × List (String × Seconds))
  | journal, last, [] => .done (journal, last, [])
  | journal, last, service :: services => do
      let _ <- within journal (remainingSeconds budget)
      let journal <- record run (some batch) service "started"
      let _ <- within journal (call (.runStage service batch))
      let journal <- record run (some batch) service "completed"
      let now <- within journal (call .clock)
      let (journal, final, seconds) <- runStages run budget batch journal now.seconds services
      return (journal, final, (service, now.seconds - last) :: seconds)

/-- The verification, with the errors that come as a failed stage. -/
def verifyGold (run : Run Seconds Problem) (budget : Budget Seconds) (batch : RunBatch) :
    Traced Seconds Problem (Journal × GoldReport) :=
  mapFail (fun failure : Journal × RunError Problem =>
    (failure.1, failedVerification run failure.2)) do
      let journal <- record run (some batch) "verification" "started"
      let verification <- within journal
        (checkCommerceGoldWithRetry run budget batch.entry.batchId)
      return (journal, verification)

/-- From the verification on. -/
def verifyAndCommit (run : Run Seconds Problem) (budget : Budget Seconds) (batch : RunBatch)
    (started : Seconds) (planning : Seconds) :
    Journal × Seconds × List (String × Seconds) ->
      Traced Seconds Problem (Journal × Report Seconds)
  | (_, last, stages) => do
      let (journal, verification) <- verifyGold run budget batch
      let verified <- within journal (call .clock)
      let _ <- within journal (remainingSeconds budget)
      let _ <- record run (some batch) "verification" "completed"
      let journal <- record run (some batch) "checkpoint" "started"
      let _ <- within journal (remainingSeconds budget)
      let checkpoint <- within journal (commitBatch run budget batch.entry)
      let journal <- record run (some batch) "checkpoint" "completed"
      let finished <- within journal (call .clock)
      return (journal, .ready batch.entry.batchId (stagesOf batch) verification checkpoint {
        planning
        stages
        verification := verified.seconds - last
        checkpoint := finished.seconds - verified.seconds
        total := finished.seconds - started })

/-- What is done about the first batch of the plan. -/
def runBatch (run : Run Seconds Problem) (budget : Budget Seconds) (journal : Journal)
    (started : Seconds) (entry : BatchEntry) : Traced Seconds Problem (Journal × Report Seconds) := do
  let _ <- within journal (beginBatch run entry)
  let customerHistoryMode <- within journal (resolveOptions entry)
  let batch := { entry, customerHistoryMode }
  let journal <- record run (some batch) "planning" "selected"
  let last <- within journal (call .clock)
  let staged <- runStages run budget batch journal last.seconds (stagesOf batch)
  verifyAndCommit run budget batch started (last.seconds - started) staged

/-- `_run_commerce_batch` -/
def runPlanned (run : Run Seconds Problem) (budget : Budget Seconds) (journal : Journal) :
    Traced Seconds Problem (Journal × Report Seconds) := do
  let started <- within journal (call .clock)
  let plan <- within journal planBatches
  let _ <- within journal (remainingSeconds budget)
  match plan.batches with
  | [] => return (journal, .idle)
  | entry :: _ => runBatch run budget journal started.seconds entry

/-- `type(error).__name__` -/
def RunError.typeName (exceptions : Exceptions Problem) : RunError Problem -> String
  | .raised problem => exceptions.typeName problem
  | .pipeline _ => "CommercePipelineError"
  | .batch _ => "CommerceBatchError"
  | .gate _ => "CommerceGoldGateError"

/-- The end of a run: the failure, or the status, goes to the journal. -/
def finishRun (run : Run Seconds Problem) :
    Except (Journal × RunError Problem) (Journal × Report Seconds) ->
      Step Seconds Problem (Report Seconds)
  | .error (journal, error) =>
      if run.journaled = true then do
        let _ <- call (.journal (rowOf journal.batch journal.phase "failed"
          (some (error.typeName run.exceptions))))
        .fail error
      else .fail error
  | .ok (journal, report) =>
      if run.journaled = true then do
        let _ <- call (.journal (rowOf journal.batch "run" report.status none))
        return report
      else return report

/-- `run_commerce_batch` -/
def runCommerceBatch (run : Run Seconds Problem) : Step Seconds Problem (Report Seconds) := do
  attempt (validateCommerceGoldRetry run)
  let timeout <- attempt (commerceRunTimeoutSeconds run)
  let started <- call .clock
  let budget <- runBudget run timeout started.seconds
  (do
    let journal <- record run none "planning" "started"
    runPlanned run budget journal).recover (finishRun run)

end CommerceRun
end Pipeline
end LakehouseOps
