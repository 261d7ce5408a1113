import Mathlib
import LakehouseOps.Pipeline.CommerceRunMilestones

/-!
# What a run leaves behind

Whatever the environment of a run does, and wherever the run is cut off, its milestones are in
the legal order, and the checkpoint is replaced only when everything before it has been done.
-/

namespace LakehouseOps
namespace Pipeline
namespace CommerceRun

open Library Library.Dialogue Ingestion

variable {Seconds Problem : Type}

section Evidence

variable {base : History Seconds Problem} {reached : List Milestone}

variable [Add Seconds] [Sub Seconds] [Min Seconds] [Zero Seconds] [LE Seconds]

/-! ## Rules -/

/-- What is left of a part of a run: the milestones are those of a run that has not failed,
and a part that returns leaves what is said. -/
def OrUnfailed {Error Value : Type} (run : Run Seconds Problem)
    (good : History Seconds Problem -> Value -> Prop) (history : History Seconds Problem) :
    Except Error Value -> Prop
  | .ok value => good history value
  | .error _ => Unfailed run (milestones history)

/-- A part of a run keeps the guard, and leaves what is said. -/
def Goes {Error Value : Type} (run : Run Seconds Problem)
    (good : History Seconds Problem -> Value -> Prop) (before : History Seconds Problem)
    (part : Dialogue (Request Seconds) (Answer Seconds Problem) Error Value) : Prop :=
  part.Holds (Guarded run) (OrUnfailed run good) before

variable {run : Run Seconds Problem} {Error Value Result : Type}
variable {good : History Seconds Problem -> Value -> Prop}
variable {after : History Seconds Problem -> Result -> Prop}
variable {before : History Seconds Problem}

theorem guarded_of_quiet {history : History Seconds Problem} {request : Request Seconds}
    (unfailed : Unfailed run (milestones history)) (quiet : Quiet request) :
    Guarded run history request where
  legal := Or.inl unfailed
  replaces := by
    rintro checkpoint rfl
    exact quiet.elim
  concludes := by
    rintro row rfl
    exact quiet.elim

theorem Goes.mono {part : Dialogue (Request Seconds) (Answer Seconds Problem) Error Value}
    {weaker : History Seconds Problem -> Value -> Prop} (goes : Goes run good before part)
    (implies : forall history value, good history value -> weaker history value) :
    Goes run weaker before part :=
  Holds.mono goes fun history result ends => by
    cases result with
    | ok value => exact implies history value ends
    | error problem => exact ends

theorem Goes.bind {first : Dialogue (Request Seconds) (Answer Seconds Problem) Error Value}
    {next : Value -> Dialogue (Request Seconds) (Answer Seconds Problem) Error Result}
    (goes : Goes run good before first)
    (rest : forall history value, good history value -> Goes run after history (next value)) :
    Goes run after before (first >>= next) :=
  Holds.bind (Holds.mono goes fun history result ends => by
    cases result with
    | ok value => exact rest history value ends
    | error problem => exact ends)

theorem Goes.mapFail {Failure : Type} {tell : Failure -> Error}
    {part : Dialogue (Request Seconds) (Answer Seconds Problem) Failure Value}
    (goes : Goes run good before part) : Goes run good before (part.mapFail tell) :=
  Holds.mapFail (Holds.mono goes fun history result ends => by cases result <;> exact ends)

/-- Requests that add no milestone change nothing, however their part ends. -/
theorem steady {part : Dialogue (Request Seconds) (Answer Seconds Problem) Error Value}
    (sends : part.Sends Quiet) (unfailed : Unfailed run reached) (here : At base reached before) :
    part.Holds (Guarded run) (fun history _ => At base reached history) before := by
  have kept : forall (history : History Seconds Problem) request
      (answer : Answer Seconds Problem), At base reached history -> Quiet request ->
        At base reached (history ++ [(request, answer)]) := by
    intro history request answer here quiet
    refine here.silent ?_
    unfold milestones
    rw [List.filterMap_cons_none (milestone_of_quiet quiet answer), List.filterMap_nil]
  exact sends.holds (fun history request here quiet =>
    guarded_of_quiet (here.unfailed unfailed) quiet) kept here

theorem goes_quiet {part : Dialogue (Request Seconds) (Answer Seconds Problem) Error Value}
    (sends : part.Sends Quiet) (unfailed : Unfailed run reached) (here : At base reached before) :
    Goes run (fun history _ => At base reached history) before part :=
  (steady sends unfailed here).mono fun history result here => by
    cases result with
    | ok value => exact here
    | error problem => exact here.unfailed unfailed

/-- A call is the next exchange; what it raises adds no milestone. -/
theorem goes_call {request : Request Seconds} (guarded : Guarded run before request)
    (unfailed : Unfailed run (milestones before)) :
    Goes run (fun history reply => history = before ++ [(request, .ok reply)]) before
      (call request : Step Seconds Problem (Reply Seconds)) := by
  refine ⟨guarded, fun answer => ?_⟩
  cases answer with
  | ok reply => exact rfl
  | error problem =>
      change Unfailed run (milestones (before ++ [(request, .error problem)]))
      rw [milestones_last, milestone_of_error, Option.toList_none, List.append_nil]
      exact unfailed

/-- A call that adds a milestone when it returns. -/
theorem goes_adds {request : Request Seconds} {milestone : Milestone}
    (guarded : Guarded run before request) (here : At base reached before)
    (unfailed : Unfailed run reached)
    (adds : forall reply : Reply Seconds,
      milestone? (request, (.ok reply : Answer Seconds Problem)) = some milestone) :
    Goes run (fun history _ => At base (reached ++ [milestone]) history) before
      (call request : Step Seconds Problem (Reply Seconds)) := by
  refine (goes_call guarded (here.unfailed unfailed)).mono ?_
  rintro _ reply rfl
  refine here.append ?_
  unfold milestones
  rw [List.filterMap_cons_some (adds reply), List.filterMap_nil]

/-- The reads of the listing and of the state files. -/
theorem goes_reads {rest : Reply Seconds -> Reply Seconds -> Step Seconds Problem Value}
    (here : At base reached before) (unfailed : Unfailed run reached)
    (goes : forall listing state, Goes run good
      (before ++ [(.discover, .ok listing), (.readFiles, .ok state)]) (rest listing state)) :
    Goes run good before (do
      let listing <- call .discover
      let state <- call .readFiles
      rest listing state) := by
  refine Goes.bind (goes_call (guarded_of_quiet (here.unfailed unfailed) trivial)
    (here.unfailed unfailed)) ?_
  rintro _ listing rfl
  have listed : At base reached (before ++ [(Request.discover, .ok listing)]) := here.silent rfl
  refine Goes.bind (goes_call (guarded_of_quiet (listed.unfailed unfailed) trivial)
    (listed.unfailed unfailed)) ?_
  rintro _ state rfl
  rw [List.append_assoc]
  exact goes listing state

theorem goes_planned {outcome : Except CommerceBatchError Value}
    (unfailed : Unfailed run (milestones before)) :
    Goes run (fun history value => history = before ∧ outcome = .ok value) before
      (planned outcome : Step Seconds Problem Value) := by
  cases outcome with
  | ok value => exact ⟨rfl, rfl⟩
  | error problem => exact unfailed

/-- A cleanup that adds no milestone, however its part ends. -/
theorem Goes.cleaned (request : Request Seconds)
    {part : Step Seconds Problem Value}
    {cleanup : Except (RunError Problem) Value -> Step Seconds Problem Value}
    {weaker : History Seconds Problem -> Value -> Prop}
    (goes : Goes run good before part) (quiet : Quiet request)
    (isCleanup : forall outcome, cleanup outcome = (call request >>= fun _ => attempt outcome))
    (known : forall history value, good history value -> Unfailed run (milestones history))
    (kept : forall history value reply, good history value ->
      weaker (history ++ [(request, .ok reply)]) value) :
    Goes run weaker before (part.recover cleanup) := by
  refine Holds.recover (Holds.mono goes fun history result ends => ?_)
  have unfailed : Unfailed run (milestones history) := by
    cases result with
    | ok value => exact known history value ends
    | error problem => exact ends
  rw [isCleanup]
  refine Goes.bind (goes_call (guarded_of_quiet unfailed quiet) unfailed) ?_
  rintro _ reply rfl
  cases result with
  | ok value => exact kept history value reply ends
  | error problem =>
      have here : At [] (milestones history) history := ⟨List.nil_prefix, rfl⟩
      refine (here.silent ?_).unfailed unfailed
      unfold milestones
      rw [List.filterMap_cons_none (milestone_of_quiet quiet _), List.filterMap_nil]

/-- A body under the lock. -/
theorem goes_withLock (good : History Seconds Problem -> Value -> Prop)
    {body : Step Seconds Problem Value}
    {weaker : History Seconds Problem -> Value -> Prop}
    (unfailed : Unfailed run (milestones before))
    (goes : forall held, Goes run good (before ++ [(.lock, .ok held)]) body)
    (known : forall history value, good history value -> Unfailed run (milestones history))
    (kept : forall history value released, good history value ->
      weaker (history ++ [(.unlock, .ok released)]) value) :
    Goes run weaker before (withLock run body) := by
  refine Goes.mapFail (Goes.bind (goes_call (guarded_of_quiet unfailed trivial) unfailed) ?_)
  rintro _ held rfl
  exact (goes held).cleaned .unlock trivial (fun _ => rfl) known kept

/-- A write of a state file, with the checks directly before its replacement. -/
theorem goes_writeState {beforeReplace : Step Seconds Problem Unit}
    {replacement : Request Seconds} {milestone : Milestone}
    (here : At base reached before) (unfailed : Unfailed run reached)
    (checks : forall created written, Goes run
      (fun history _ => At base reached history ∧ Guarded run history replacement)
      (before ++ [(.createTemporary, .ok created), (.writeTemporary, .ok written)]) beforeReplace)
    (adds : forall reply : Reply Seconds,
      milestone? (replacement, (.ok reply : Answer Seconds Problem)) = some milestone)
    (later : Unfailed run (reached ++ [milestone])) :
    Goes run (fun history _ => At base (reached ++ [milestone]) history) before
      (writeState beforeReplace replacement) := by
  refine Goes.bind (goes_call (guarded_of_quiet (here.unfailed unfailed) trivial)
    (here.unfailed unfailed)) ?_
  rintro _ created rfl
  have next : At base reached (before ++ [(Request.createTemporary, .ok created)]) :=
    here.silent rfl
  have written : Goes run (fun history _ => At base (reached ++ [milestone]) history)
      (before ++ [(.createTemporary, .ok created)]) (do
        let _ <- call .writeTemporary
        beforeReplace
        let _ <- call replacement
        return () : Step Seconds Problem Unit) := by
    refine Goes.bind (goes_call (guarded_of_quiet (next.unfailed unfailed) trivial)
      (next.unfailed unfailed)) ?_
    rintro _ written rfl
    rw [List.append_assoc]
    refine Goes.bind (checks created written) fun history _ checked => ?_
    exact Goes.bind (goes_adds checked.2 checked.1 unfailed adds) fun _ _ here => here
  exact written.cleaned .discardTemporary trivial (fun _ => rfl) (fun _ _ here => here.unfailed later)
    fun _ _ _ here => here.silent rfl

/-- A part that asks nothing goes on with its value. -/
theorem goes_attempt {outcome : Except Error Value}
    (unfailed : Unfailed run (milestones before)) :
    Goes run (fun history value => history = before ∧ outcome = .ok value) before
      (attempt outcome : Dialogue (Request Seconds) (Answer Seconds Problem) Error Value) := by
  cases outcome with
  | ok value => exact ⟨rfl, rfl⟩
  | error problem => exact unfailed

/-! ## The parts of a run -/

theorem goes_planBatches (here : At base reached before) (unfailed : Unfailed run reached) :
    Goes run (fun history chosen => At base reached history ∧
        forall entry, chosen.batches.head? = some entry -> Planned entry history) before
      (planBatches : Step Seconds Problem Plan) := by
  refine goes_reads here unfailed fun listing state => ?_
  have next : At base reached
      (before ++ [(Request.discover, .ok listing), (Request.readFiles, .ok state)]) :=
    here.silent rfl
  refine (goes_planned (next.unfailed unfailed)).mono ?_
  rintro _ chosen ⟨rfl, isPlan⟩
  exact ⟨next, fun entry first => ⟨before, listing, state, [], (List.append_nil _).symm,
    chosen, isPlan, first⟩⟩

theorem goes_resolveOptions {entry : BatchEntry} (here : At base reached before)
    (unfailed : Unfailed run reached) :
    Goes run (fun history mode => At base reached history ∧ Resolved ⟨entry, mode⟩ history) before
      (resolveOptions entry : Step Seconds Problem (Option CustomerHistoryMode)) := by
  refine goes_reads here unfailed fun listing state => ?_
  have next : At base reached
      (before ++ [(Request.discover, .ok listing), (Request.readFiles, .ok state)]) :=
    here.silent rfl
  refine (goes_planned (next.unfailed unfailed)).mono ?_
  rintro _ mode ⟨rfl, isMode⟩
  exact ⟨next, before, listing, state, [], (List.append_nil _).symm, isMode⟩

theorem goes_beginBatch {entry : BatchEntry} (here : At base reached before)
    (unfailed : forall reserved : Option BatchEntry,
      Unfailed run (reached ++ reserved.toList.map .reserved)) :
    Goes run (fun history _ => Exists fun reserved =>
        At base (reached ++ reserved.toList.map .reserved) history ∧
          Reserves entry reserved history) before
      (beginBatch run entry) := by
  have first : Unfailed run reached := (unfailed none).of_shorter (List.prefix_append _ _)
  refine goes_withLock (fun history _ => Exists fun reserved =>
      At base (reached ++ reserved.toList.map .reserved) history ∧
        Reserves entry reserved history)
    (here.unfailed first) (fun held => ?_)
    (fun history _ ⟨reserved, here, _⟩ => here.unfailed (unfailed reserved))
    fun history _ released ⟨reserved, here, reserves⟩ =>
      ⟨reserved, here.silent rfl, reserves.later (List.prefix_append _ _)⟩
  refine goes_reads (here.silent rfl) first fun listing state => ?_
  rw [List.append_assoc]
  have next : At base reached (before ++ ([(Request.lock, .ok held)] ++
      [(Request.discover, .ok listing), (Request.readFiles, .ok state)])) := here.silent rfl
  refine Goes.bind (goes_planned (next.unfailed first)) ?_
  rintro _ reserved ⟨rfl, decided⟩
  have reserves : Reserves entry reserved (before ++ ([(Request.lock, .ok held)] ++
      [(Request.discover, .ok listing), (Request.readFiles, .ok state)])) :=
    ⟨before, held, listing, state, [], (List.append_nil _).symm, decided⟩
  cases reserved with
  | none =>
      refine ⟨none, ?_, reserves⟩
      rw [Option.toList_none, List.map_nil, List.append_nil]
      exact next
  | some reserved =>
      have writing : At (before ++ ([(Request.lock, .ok held)] ++
          [(Request.discover, .ok listing), (Request.readFiles, .ok state)])) reached
          (before ++ ([(Request.lock, .ok held)] ++
            [(Request.discover, .ok listing), (Request.readFiles, .ok state)])) :=
        ⟨List.prefix_rfl, next.shown⟩
      refine (goes_writeState writing first (fun created written => ?_) (fun _ => rfl)
        (unfailed (some reserved))).mono fun history _ here => ?_
      · exact ⟨writing.silent rfl, Or.inl ((writing.silent rfl).unfailed first), nofun, nofun⟩
      · exact ⟨some reserved, ⟨next.later.trans here.later, here.shown⟩,
          reserves.later here.later⟩

/-- A row of the journal, if there is a journal. -/
theorem goes_record {recorded : Option RunBatch} {phase event : String}
    (here : At base reached before)
    (unfailed : Unfailed run (reached ++ rows run [rowOf recorded phase event none]))
    (concludes : phase = "checkpoint" -> event = "completed" ->
      Exists fun batch => recorded = some batch ∧ Concluded run batch before) :
    Goes run (fun history journal =>
        At base (reached ++ rows run [rowOf recorded phase event none]) history ∧
          journal.batch = recorded) before
      (record run recorded phase event) := by
  have shorter : Unfailed run reached := unfailed.of_shorter (List.prefix_append _ _)
  unfold record
  by_cases journaled : run.journaled = true
  · rw [if_pos journaled]
    have isRow : rows run [rowOf recorded phase event none] =
        [.row (rowOf recorded phase event none)] := if_pos journaled
    rw [isRow]
    refine Goes.mapFail (Goes.bind (goes_adds ⟨Or.inl (here.unfailed shorter), nofun, ?_⟩ here
      shorter fun _ => rfl) fun _ _ here => ⟨here, rfl⟩)
    rintro row ⟨⟩ isPhase isEvent
    obtain ⟨batch, rfl, concluded⟩ := concludes isPhase isEvent
    obtain rfl : phase = "checkpoint" := isPhase
    obtain rfl : event = "completed" := isEvent
    exact ⟨batch, rfl, concluded⟩
  · rw [if_neg journaled]
    have noRow : rows run [rowOf recorded phase event none] = [] := if_neg journaled
    rw [noRow, List.append_nil]
    exact ⟨here, rfl⟩

variable [DecidableLE Seconds]

/-- The reads of the clocks, which find the cycle's deadline ahead. -/
def ClockRead (budget : Budget Seconds) (now : Seconds) (reads : History Seconds Problem) : Prop :=
  Exists fun reply => now = reply.seconds ∧
    ((budget.cycleDeadline = none ∧ reads = [(.clock, .ok reply)]) ∨
      Exists fun cycleDeadline => Exists fun first =>
        budget.cycleDeadline = some cycleDeadline ∧ ¬cycleDeadline ≤ first.seconds ∧
          reads = [(.monotonic, .ok first), (.clock, .ok reply)])

theorem goes_budgetClock (budget : Budget Seconds) (unfailed : Unfailed run reached)
    (here : At base reached before) :
    Goes run (fun history now => Exists fun reads => history = before ++ reads ∧
        ClockRead budget now reads) before
      (budgetClock budget : Step Seconds Problem Seconds) := by
  unfold budgetClock
  cases isCycle : budget.cycleDeadline with
  | none =>
      refine Goes.bind (goes_call (guarded_of_quiet (here.unfailed unfailed) trivial)
        (here.unfailed unfailed)) ?_
      rintro _ reply rfl
      exact ⟨_, rfl, reply, rfl, Or.inl ⟨isCycle, rfl⟩⟩
  | some cycleDeadline =>
      refine Goes.bind (goes_call (guarded_of_quiet (here.unfailed unfailed) trivial)
        (here.unfailed unfailed)) ?_
      rintro _ first rfl
      have next : At base reached (before ++ [(Request.monotonic, .ok first)]) := here.silent rfl
      refine holds_reject_bind (fun left => ?_) fun _ => next.unfailed unfailed
      refine Goes.bind (goes_call (guarded_of_quiet (next.unfailed unfailed) trivial)
        (next.unfailed unfailed)) ?_
      rintro _ reply rfl
      exact ⟨_, List.append_assoc _ _ _, reply, rfl, Or.inr
        ⟨cycleDeadline, first, isCycle, left, rfl⟩⟩

/-- A look at the budget that goes on has left time. -/
theorem goes_remaining (budget : Budget Seconds) (unfailed : Unfailed run reached)
    (here : At base reached before) :
    Goes run (fun history _ => Exists fun reads => history = before ++ reads ∧
        BudgetLeft budget reads) before
      (remainingSeconds budget : Step Seconds Problem Seconds) := by
  refine Goes.bind (goes_budgetClock budget unfailed here) ?_
  rintro _ now ⟨reads, rfl, reply, rfl, shape⟩
  have silent : milestones reads = [] := by
    rcases shape with ⟨_, rfl⟩ | ⟨cycleDeadline, first, _, _, rfl⟩ <;> rfl
  refine holds_reject_bind (fun left => ?_) fun _ => (here.silent silent).unfailed unfailed
  exact ⟨reads, rfl, reply, left, shape⟩

section Commit

variable {budget : Budget Seconds} {batch : RunBatch} {reserved : Option BatchEntry}

/-- A commit replaces the checkpoint, or finds the batch processed. -/
def CommitDone (run : Run Seconds Problem) (batch : RunBatch) (reserved : Option BatchEntry)
    (base history : History Seconds Problem) : Prop :=
  (Exists fun checkpoint => Records checkpoint batch.entry ∧
      At base (verifiedTrace run batch reserved ++ [.replaced checkpoint]) history) ∨
    (At base (verifiedTrace run batch reserved) history ∧ FoundProcessed batch.entry history)

/-- A commit under the lock, before it is released. -/
def CommitHeld (run : Run Seconds Problem) (batch : RunBatch) (reserved : Option BatchEntry)
    (base history : History Seconds Problem) : Prop :=
  (Exists fun checkpoint => Records checkpoint batch.entry ∧
      At base (verifiedTrace run batch reserved ++ [.replaced checkpoint]) history) ∨
    (At base (verifiedTrace run batch reserved) history ∧
      forall released, FoundProcessed batch.entry (history ++ [(.unlock, .ok released)]))

theorem goes_carryOut {held listing state : Reply Seconds} {decision : CommitDecision}
    (prepared : Prepared run budget batch reserved base)
    (here : At base (verifiedTrace run batch reserved) before)
    (decided : commitDecision state.files (discover listing.landed) batch.entry.batchId
      (some batch.entry.manifestSha256) = .ok decision) :
    Goes run (fun history _ => CommitHeld run batch reserved base history)
      (before ++ [(.lock, .ok held), (.discover, .ok listing), (.readFiles, .ok state)])
      (carryOut (remainingSeconds budget >>= fun _ => .done ()) decision) := by
  have next : At base (verifiedTrace run batch reserved)
      (before ++ [(.lock, .ok held), (.discover, .ok listing), (.readFiles, .ok state)]) :=
    here.silent rfl
  have unfailed := unfailed_verified run batch reserved
  cases decision with
  | alreadyProcessed =>
      refine Or.inr ⟨next, fun released => ⟨before, held, listing, state, released, ?_, decided⟩⟩
      rw [List.append_assoc]
      rfl
  | advance checkpoint isReserved =>
      have replaced := unfailed_replaced run batch reserved (some checkpoint)
      have records : Records checkpoint batch.entry := by
        obtain ⟨known, _, committed, _, _, _, _, unchanged, _, rfl, _⟩ :=
          commitDecision_advance decided
        exact ⟨_, Checkpoint.processed_record_self _ _ _, unchanged _ rfl⟩
      have written : Goes run
          (fun history _ => At base (verifiedTrace run batch reserved ++ [.replaced checkpoint])
            history)
          (before ++ [(.lock, .ok held), (.discover, .ok listing), (.readFiles, .ok state)])
          (writeState (remainingSeconds budget >>= fun _ => .done ())
            (.replaceCheckpoint checkpoint)) := by
        refine goes_writeState next unfailed (fun created written => ?_) (fun _ => rfl) replaced
        have ready : At base (verifiedTrace run batch reserved)
            (before ++ [(.lock, .ok held), (.discover, .ok listing), (.readFiles, .ok state)] ++
              [(.createTemporary, .ok created), (.writeTemporary, .ok written)]) :=
          next.silent rfl
        refine Goes.bind (goes_remaining budget unfailed ready) ?_
        rintro _ _ ⟨reads, rfl, left⟩
        have silent : milestones reads = [] := by
          obtain ⟨reply, _, ⟨_, rfl⟩ | ⟨cycleDeadline, first, _, _, rfl⟩⟩ := left <;> rfl
        have reached := ready.silent silent
        refine ⟨reached, Or.inl (reached.unfailed unfailed), ?_, nofun⟩
        rintro _ ⟨⟩
        refine ⟨budget, batch, reserved, prepared.later reached.later, reached.shown,
          before, held, listing, state, created, written, reads, isReserved, ?_, decided, left⟩
        rw [List.append_assoc before]
        rfl
      refine Goes.bind written fun history _ here => ?_
      by_cases unlinks : isReserved = true
      · rw [if_pos unlinks]
        exact Goes.bind (goes_quiet (sends_call trivial) replaced here) fun _ _ here =>
          Or.inl ⟨checkpoint, records, here⟩
      · rw [if_neg unlinks]
        exact Or.inl ⟨checkpoint, records, here⟩

theorem goes_commitBatch (prepared : Prepared run budget batch reserved base)
    (here : At base (verifiedTrace run batch reserved) before) :
    Goes run (fun history _ => CommitDone run batch reserved base history) before
      (commitBatch run budget batch.entry) := by
  have unfailed := unfailed_verified run batch reserved
  refine Goes.bind (goes_withLock (fun history _ => CommitHeld run batch reserved base history)
    (here.unfailed unfailed) (fun held => ?_) ?_ ?_) fun _ _ ended => ended
  · refine goes_reads (here.silent rfl) unfailed fun listing state => ?_
    rw [List.append_assoc]
    refine Goes.bind (goes_planned ((here.silent rfl).unfailed unfailed)) ?_
    rintro _ decision ⟨rfl, decided⟩
    exact goes_carryOut prepared here decided
  · rintro history _ (⟨checkpoint, _, here⟩ | ⟨here, _⟩)
    · exact here.unfailed (unfailed_replaced run batch reserved (some checkpoint))
    · exact here.unfailed unfailed
  · rintro history _ released (⟨checkpoint, records, here⟩ | ⟨here, found⟩)
    · exact Or.inl ⟨checkpoint, records, here.silent rfl⟩
    · exact Or.inr ⟨here.silent rfl, found released⟩

end Commit

section Gold

variable {budget : Budget Seconds} {batchId : String}

/-- A gate that fails adds no milestone, and one that passes adds its answer. -/
def GateDone {Error Value : Type} (base : History Seconds Problem) (reached : List Milestone)
    (batchId : String) (history : History Seconds Problem) : Except Error Value -> Prop
  | .ok _ => At base (reached ++ [.goldReady (goldQuery batchId)]) history
  | .error _ => At base reached history

theorem checkCommerceGold_holds (here : At base reached before)
    (unfailed : Unfailed run reached) :
    (checkCommerceGold budget batchId : Step Seconds Problem GoldReport).Holds (Guarded run)
      (GateDone base reached batchId) before := by
  refine holds_reject_bind (fun _ => ?_) fun _ => here
  refine Holds.bind ((steady (remainingSeconds_quiet budget) unfailed here).mono
    fun history result here => ?_)
  cases result with
  | error problem => exact here
  | ok remaining =>
      refine ⟨⟨Or.inl (here.unfailed unfailed), nofun, nofun⟩, fun answer => ?_⟩
      cases answer with
      | error problem => exact here.silent rfl
      | ok reply =>
          have shown : milestones [(Request.query (goldQuery batchId),
              (Except.ok reply : Answer Seconds Problem))] =
              (milestone? (Request.query (goldQuery batchId),
                (Except.ok reply : Answer Seconds Problem))).toList :=
            milestones_last [] _
          change (attempt (readGold reply.rows) >>= fun counts =>
            (.done ⟨batchId, counts.1, counts.2.1, counts.2.2⟩ :
              Step Seconds Problem GoldReport)).Holds _ _ _
          dsimp only [milestone?] at shown
          cases isReady : (readGold reply.rows :
              Except (RunError Problem) (Int × Int × Int)) with
          | ok counts =>
              rw [isReady] at shown
              exact here.append shown
          | error problem =>
              rw [isReady] at shown
              exact here.silent shown

theorem checkWithRetry_holds (unfailed : Unfailed run reached) (left : Nat)
    {before : History Seconds Problem} (here : At base reached before) :
    (checkWithRetry run budget batchId left).Holds (Guarded run)
      (GateDone base reached batchId) before := by
  induction left generalizing before with
  | zero => exact checkCommerceGold_holds here unfailed
  | succ left inductionHypothesis =>
      refine Holds.recover ((checkCommerceGold_holds here unfailed).mono
        fun history result ends => ?_)
      cases result with
      | ok report => exact ends
      | error error =>
          by_cases again : isRetryable run.exceptions error = true
          · dsimp only
            rw [if_pos again]
            have sleeps : (boundedSleep run budget).Sends Quiet :=
              Sends.bind (remainingSeconds_quiet budget) fun _ =>
                Sends.bind (sends_call trivial) fun _ =>
                  Sends.bind (remainingSeconds_quiet budget) fun _ => trivial
            refine Holds.bind ((steady sleeps unfailed ends).mono fun history result here => ?_)
            cases result with
            | ok _ => exact inductionHypothesis here
            | error problem => exact here
          · dsimp only
            rw [if_neg again]
            exact ends

end Gold

section Whole

variable {budget : Budget Seconds} {batch : RunBatch} {reserved : Option BatchEntry}

/-- No stage is called as a phase of the end of a run. -/
theorem stage_name {service : String} (isStage : service ∈ stagesOf batch) :
    service ≠ "run" ∧ service ≠ "checkpoint" := by
  have never : forall stage, stage ∈ commerceStages ++ [currentStage] ->
      stage ≠ "run" ∧ stage ≠ "checkpoint" := by decide
  refine never service ?_
  unfold stagesOf at isStage
  cases isMode : batch.customerHistoryMode with
  | none =>
      rw [isMode] at isStage
      exact List.mem_append_left _ isStage
  | some mode =>
      rw [isMode] at isStage
      exact isStage

theorem goes_runStages {finished services : List String} {journal : Journal} {last : Seconds}
    (whole : finished ++ services = stagesOf batch)
    (here : At base (stagedTrace run batch reserved finished) before) :
    Goes run (fun history _ => At base (stagedTrace run batch reserved (stagesOf batch)) history)
      before (runStages run budget batch journal last services) := by
  induction services generalizing finished journal last before with
  | nil =>
      rw [List.append_nil] at whole
      rw [← whole]
      exact here
  | cons service services inductionHypothesis =>
      have isStage : service ∈ stagesOf batch := by
        rw [← whole]
        exact List.mem_append_right _ List.mem_cons_self
      have completed : Unfailed run (stagedTrace run batch reserved (finished ++ [service])) :=
        unfailed_staged run batch reserved ⟨services, by rw [List.append_assoc]; exact whole⟩
      rw [stagedTrace_concat] at completed
      have returned := completed.of_shorter (List.prefix_append _ _)
      have started := returned.of_shorter (List.prefix_append _ _)
      refine Goes.bind (goes_quiet (Sends.mapFail _ (remainingSeconds_quiet budget))
        (started.of_shorter (List.prefix_append _ _)) here) fun _ _ here => ?_
      refine Goes.bind (goes_record here started fun isPhase => absurd isPhase
        (stage_name isStage).2) fun _ _ ⟨here, _⟩ => ?_
      refine Goes.bind (Goes.mapFail (goes_adds ⟨Or.inl (here.unfailed started), nofun, nofun⟩
        here started fun _ => rfl)) fun _ _ here => ?_
      refine Goes.bind (goes_record here completed fun isPhase => absurd isPhase
        (stage_name isStage).2) fun _ _ ⟨here, _⟩ => ?_
      refine Goes.bind (goes_quiet (Sends.mapFail _ (sends_call trivial)) completed here)
        fun _ _ here => ?_
      rw [← stagedTrace_concat] at here
      refine Goes.bind (inductionHypothesis (by rw [List.append_assoc]; exact whole) here)
        fun _ _ here => here

/-- What the body of a run leaves when it returns. -/
def BodyDone (run : Run Seconds Problem) (history : History Seconds Problem) :
    Journal × Report Seconds -> Prop
  | (journal, .idle) => journal.batch = none ∧ milestones history = startedTrace run
  | (journal, .ready _ _ _ _ _) => Exists fun batch => Exists fun reserved =>
      Exists fun replaced => journal.batch = some batch ∧
        milestones history = committedTrace run batch reserved replaced

theorem goes_verifyGold (here : At base (stagedTrace run batch reserved (stagesOf batch)) before) :
    Goes run (fun history _ => At base (goldTrace run batch reserved) history) before
      (verifyGold run budget batch) := by
  have verifying := unfailed_verifying run batch reserved
  refine Goes.mapFail (Goes.bind (goes_record here verifying fun isPhase =>
    absurd isPhase (by decide)) fun history journal ⟨here, _⟩ => ?_)
  have checks : Goes run (fun history _ => At base (goldTrace run batch reserved) history) history
      (checkCommerceGoldWithRetry run budget batch.entry.batchId) := by
    refine Goes.bind (goes_attempt (here.unfailed verifying)) ?_
    rintro _ _ ⟨rfl, _⟩
    refine (checkWithRetry_holds verifying _ here).mono fun history result ends => ?_
    cases result with
    | ok report => exact ends
    | error problem => exact ends.unfailed verifying
  exact Goes.bind (Goes.mapFail checks) fun _ _ here => here

omit [DecidableLE Seconds] in
theorem CommitDone.concluded {history : History Seconds Problem}
    (prepared : Prepared run budget batch reserved base)
    (ended : CommitDone run batch reserved base history) :
    Concluded run batch history ∧ Exists fun replaced : Option Checkpoint =>
      At base (verifiedTrace run batch reserved ++ replaced.toList.map .replaced) history := by
  rcases ended with ⟨checkpoint, records, here⟩ | ⟨here, found⟩
  · exact ⟨⟨budget, reserved, prepared.later here.later,
      Or.inl ⟨checkpoint, records, here.shown⟩⟩,
      some checkpoint, here⟩
  · refine ⟨⟨budget, reserved, prepared.later here.later, Or.inr ⟨here.shown, found⟩⟩,
      none, ?_⟩
    rw [Option.toList_none, List.map_nil, List.append_nil]
    exact here

theorem goes_verifyAndCommit {started planning : Seconds}
    {staged : Journal × Seconds × List (String × Seconds)}
    (prepared : Prepared run budget batch reserved base)
    (here : At base (stagedTrace run batch reserved (stagesOf batch)) before) :
    Goes run (BodyDone run) before
      (verifyAndCommit run budget batch started planning staged) := by
  have gold := unfailed_gold run batch reserved
  have verified := unfailed_verified run batch reserved
  have marked : Unfailed run (goldTrace run batch reserved ++
      rows run [rowOf (some batch) "verification" "completed" none]) := by
    refine verified.of_shorter ?_
    rw [verifiedTrace, ← List.append_assoc]
    exact List.prefix_append _ _
  refine Goes.bind (goes_verifyGold here) fun _ _ here => ?_
  refine Goes.bind (goes_quiet (Sends.mapFail _ (sends_call trivial)) gold here)
    fun _ _ here => ?_
  refine Goes.bind (goes_quiet (Sends.mapFail _ (remainingSeconds_quiet budget)) gold here)
    fun _ _ here => ?_
  refine Goes.bind (goes_record here marked fun isPhase => absurd isPhase (by decide))
    fun _ _ recorded => ?_
  refine Goes.bind (goes_record recorded.1 (List.append_assoc _ _ _ ▸ verified)
    fun _ isEvent => absurd isEvent (by decide)) fun _ _ recorded => ?_
  obtain ⟨here, _⟩ := recorded
  rw [List.append_assoc] at here
  refine Goes.bind (goes_quiet (Sends.mapFail _ (remainingSeconds_quiet budget)) verified here)
    fun _ _ here => ?_
  refine Goes.bind (Goes.mapFail (goes_commitBatch prepared here)) fun history _ ended => ?_
  obtain ⟨concluded, replaced, here⟩ := ended.concluded prepared
  have committed := unfailed_committed run batch reserved replaced
  have whole : verifiedTrace run batch reserved ++ replaced.toList.map .replaced ++
      rows run [rowOf (some batch) "checkpoint" "completed" none] =
      committedTrace run batch reserved replaced := List.append_assoc _ _ _
  refine Goes.bind (goes_record here (whole ▸ committed) fun _ _ => ⟨batch, rfl, concluded⟩)
    fun _ journal recorded => ?_
  obtain ⟨here, isBatch⟩ := recorded
  rw [whole] at here
  exact Goes.bind (goes_quiet (Sends.mapFail _ (sends_call trivial)) committed here)
    fun _ _ here => ⟨batch, reserved, replaced, isBatch, here.shown⟩

theorem goes_runBatch {journal : Journal} {started : Seconds} {entry : BatchEntry}
    (budgeted : Budgeted run budget base) (isPlanned : Planned entry base)
    (here : At base (startedTrace run) before) :
    Goes run (BodyDone run) before (runBatch run budget journal started entry) := by
  refine Goes.bind (Goes.mapFail (goes_beginBatch here fun reserved =>
    unfailed_reserved run reserved)) fun _ _ ⟨reserved, here, reserves⟩ => ?_
  have point : At (_ : History Seconds Problem) (reservedTrace run reserved) _ :=
    ⟨List.prefix_rfl, here.shown⟩
  refine Goes.bind (Goes.mapFail (goes_resolveOptions point (unfailed_reserved run reserved)))
    fun history mode ⟨there, resolved⟩ => ?_
  have prepared : Prepared run budget ⟨entry, mode⟩ reserved history := {
    budgeted := budgeted.later (here.later.trans there.later)
    planned := isPlanned.later (here.later.trans there.later)
    reserves := reserves.later there.later
    resolved }
  have start : At history (reservedTrace run reserved) history := ⟨List.prefix_rfl, there.shown⟩
  have selected := unfailed_selected run ⟨entry, mode⟩ reserved
  refine Goes.bind (goes_record start selected fun isPhase => absurd isPhase (by decide))
    fun _ _ ⟨here, _⟩ => ?_
  refine Goes.bind (goes_quiet (Sends.mapFail _ (sends_call trivial)) selected here)
    fun _ _ here => ?_
  have first : stagedTrace run ⟨entry, mode⟩ reserved [] =
      selectedTrace run ⟨entry, mode⟩ reserved := List.append_nil _
  exact Goes.bind (goes_runStages rfl (first.symm ▸ here)) fun _ _ here =>
    goes_verifyAndCommit prepared here

theorem goes_runPlanned {journal : Journal} (fresh : journal.batch = none)
    (budgeted : Budgeted run budget base) (here : At base (startedTrace run) before) :
    Goes run (BodyDone run) before (runPlanned run budget journal) := by
  have started := unfailed_started run
  refine Goes.bind (goes_quiet (Sends.mapFail _ (sends_call trivial)) started here)
    fun _ _ here => ?_
  refine Goes.bind (Goes.mapFail (goes_planBatches here started))
    fun history chosen ⟨here, isPlanned⟩ => ?_
  have point : At history (startedTrace run) history := ⟨List.prefix_rfl, here.shown⟩
  refine Goes.bind (goes_quiet (Sends.mapFail _ (remainingSeconds_quiet budget)) started point)
    fun _ _ there => ?_
  cases isChosen : chosen.batches with
  | nil => exact ⟨fresh, there.shown⟩
  | cons entry others =>
      refine goes_runBatch (budgeted.later here.later) (isPlanned entry ?_) there
      rw [isChosen, List.head?_cons]

omit [Add Seconds] [Sub Seconds] [Min Seconds] [Zero Seconds] [LE Seconds]
  [DecidableLE Seconds] in
theorem unfailed_nil : Unfailed run [] :=
  (unfailed_started run).of_shorter List.nil_prefix

/-- The first reads of the clocks make the budget. -/
theorem goes_runBudget {timeout : Int} {started : Reply Seconds}
    (isTimeout : commerceRunTimeoutSeconds run = .ok timeout) :
    Goes run (fun history budget => milestones history = [] ∧ Budgeted run budget history)
      [(.clock, .ok started)] (runBudget run timeout started.seconds) := by
  have start : Unfailed run (milestones [(Request.clock,
      (Except.ok started : Answer Seconds Problem))]) := unfailed_nil
  refine Goes.bind (goes_attempt start) ?_
  rintro _ inherited ⟨rfl, isInherited⟩
  cases inherited with
  | none =>
      exact ⟨rfl, timeout, started, isTimeout, Or.inl ⟨isInherited, List.prefix_rfl, rfl⟩⟩
  | some cycleDeadline =>
      refine Goes.bind (goes_call (guarded_of_quiet start trivial) start) ?_
      rintro _ now rfl
      refine holds_reject_bind (fun left => ?_) fun _ => unfailed_nil
      exact ⟨rfl, timeout, started, isTimeout, Or.inr
        ⟨cycleDeadline, now, isInherited, List.prefix_rfl, left, rfl⟩⟩

/-- What a run leaves when it returns. -/
def Returned (run : Run Seconds Problem) (history : History Seconds Problem) :
    Report Seconds -> Prop
  | .idle => milestones history = idleTrace run
  | .ready _ _ _ _ _ => Exists fun batch => Exists fun reserved => Exists fun replaced =>
      milestones history = readyTrace run batch reserved replaced

/-- What a run leaves, whatever has become of it. -/
def RunDone (run : Run Seconds Problem) (history : History Seconds Problem) :
    Except (RunError Problem) (Report Seconds) -> Prop
  | .ok report => Returned run history report ∧ Legal run (milestones history)
  | .error _ => Legal run (milestones history)

omit [Add Seconds] [Sub Seconds] [Min Seconds] [Zero Seconds] [LE Seconds]
  [DecidableLE Seconds] in
/-- A run that returns has the milestones of a run that nothing cuts off. -/
theorem Returned.legal {history : History Seconds Problem} {report : Report Seconds}
    (returned : Returned run history report) : Legal run (milestones history) := by
  cases report with
  | idle => exact Or.inl ⟨_, returned ▸ .idle, List.prefix_rfl⟩
  | ready =>
      obtain ⟨batch, reserved, replaced, shown⟩ := returned
      exact Or.inl ⟨_, shown ▸ .ready batch reserved replaced, List.prefix_rfl⟩

omit [DecidableLE Seconds] in
theorem finishRun_failed {journal : Journal} {error : RunError Problem}
    (unfailed : Unfailed run (milestones before)) :
    (finishRun run (.error (journal, error))).Holds (Guarded run) (RunDone run) before := by
  unfold finishRun
  dsimp only
  have never : "failed" ≠ "completed" := by decide
  by_cases journaled : run.journaled = true
  · rw [if_pos journaled]
    refine ⟨⟨Or.inl unfailed, nofun, ?_⟩, fun answer => ?_⟩
    · rintro row ⟨⟩ _ isEvent
      exact absurd isEvent never
    · cases answer with
      | ok reply =>
          change Legal run (milestones (before ++ [(_, Except.ok reply)]))
          rw [milestones_last]
          exact Or.inr ⟨_, _, unfailed, rfl, congrArg _ (if_pos journaled).symm⟩
      | error problem =>
          change Legal run (milestones (before ++ [(_, Except.error problem)]))
          rw [milestones_last, milestone_of_error, Option.toList_none, List.append_nil]
          exact Or.inl unfailed
  · rw [if_neg journaled]
    exact Or.inl unfailed

omit [Add Seconds] [Sub Seconds] [Min Seconds] [Zero Seconds] [LE Seconds]
  [DecidableLE Seconds] in
/-- The last row completes what the body has left. -/
theorem BodyDone.completes {journal : Journal} {report : Report Seconds}
    (ended : BodyDone run before (journal, report)) :
    Unfailed run (milestones before) ∧
      forall history : History Seconds Problem,
        milestones history = milestones before ++
          rows run [rowOf journal.batch "run" report.status none] ->
        Returned run history report := by
  cases report with
  | idle =>
      obtain ⟨fresh, shown⟩ := ended
      refine ⟨shown ▸ unfailed_started run, fun history later => ?_⟩
      rw [fresh, shown] at later
      exact later
  | ready =>
      obtain ⟨batch, reserved, replaced, isBatch, shown⟩ := ended
      refine ⟨shown ▸ unfailed_committed run batch reserved replaced, fun history later => ?_⟩
      rw [isBatch, shown] at later
      exact ⟨batch, reserved, replaced, later⟩

omit [DecidableLE Seconds] in
theorem finishRun_returned {journal : Journal} {report : Report Seconds}
    (ended : BodyDone run before (journal, report)) :
    (finishRun run (.ok (journal, report))).Holds (Guarded run) (RunDone run) before := by
  obtain ⟨unfailed, completes⟩ := ended.completes
  have never : forall report : Report Seconds, "run" ≠ "checkpoint" := fun _ => by decide
  unfold finishRun
  dsimp only
  by_cases journaled : run.journaled = true
  · rw [if_pos journaled]
    have isRow : rows run [rowOf journal.batch "run" report.status none] =
        [.row (rowOf journal.batch "run" report.status none)] := if_pos journaled
    refine ⟨⟨Or.inl unfailed, nofun, ?_⟩, fun answer => ?_⟩
    · rintro row ⟨⟩ isPhase _
      exact absurd isPhase (never report)
    · cases answer with
      | ok reply =>
          have returned := completes (before ++ [(Request.journal _, Except.ok reply)]) (by
            rw [isRow]
            exact milestones_last before _)
          exact ⟨returned, returned.legal⟩
      | error problem =>
          change Legal run (milestones (before ++ [(_, Except.error problem)]))
          rw [milestones_last, milestone_of_error, Option.toList_none, List.append_nil]
          exact Or.inl unfailed
  · rw [if_neg journaled]
    have noRow : rows run [rowOf journal.batch "run" report.status none] = [] :=
      if_neg journaled
    have returned := completes before (by rw [noRow, List.append_nil])
    exact ⟨returned, returned.legal⟩

omit [DecidableLE Seconds] in
/-- A part before the end of a run. -/
theorem Goes.leads {first : Step Seconds Problem Value}
    {next : Value -> Step Seconds Problem (Report Seconds)} (goes : Goes run good before first)
    (rest : forall history value, good history value ->
      (next value).Holds (Guarded run) (RunDone run) history) :
    (first >>= next).Holds (Guarded run) (RunDone run) before :=
  Holds.bind (Holds.mono goes fun history result ends => by
    cases result with
    | ok value => exact rest history value ends
    | error problem => exact Or.inl ends)

/-- Whatever the environment does, a run keeps the guard. -/
theorem runCommerceBatch_holds (run : Run Seconds Problem) :
    (runCommerceBatch run).Holds (Guarded run) (RunDone run) [] := by
  have start : Unfailed run (milestones ([] : History Seconds Problem)) := unfailed_nil
  refine Goes.leads (goes_attempt start) ?_
  rintro _ _ ⟨rfl, _⟩
  refine Goes.leads (goes_attempt start) ?_
  rintro _ timeout ⟨rfl, isTimeout⟩
  refine Goes.leads (goes_call (guarded_of_quiet start trivial) start) ?_
  rintro _ started rfl
  refine Goes.leads (goes_runBudget isTimeout) fun history budget ⟨silent, budgeted⟩ => ?_
  have here : At history [] history := ⟨List.prefix_rfl, silent⟩
  have body : Goes run (BodyDone run) history
      (record run none "planning" "started" >>= fun journal => runPlanned run budget journal) := by
    refine Goes.bind (goes_record here (unfailed_started run) fun isPhase =>
      absurd isPhase (by decide)) fun _ journal ⟨here, fresh⟩ => ?_
    exact goes_runPlanned fresh budgeted here
  refine Holds.recover (Holds.mono body fun history result ends => ?_)
  rcases result with ⟨journal, error⟩ | ⟨journal, report⟩
  · exact finishRun_failed ends
  · exact finishRun_returned ends

end Whole

/-! ## Every run -/

/-- The order of a run, cut off or not: its milestones are legal, and when it returns they are
complete. -/
structure Ordered (run : Run Seconds Problem)
    (talk : Talk (Request Seconds) (Answer Seconds Problem) (RunError Problem)
      (Report Seconds)) : Prop where
  legal : Legal run (milestones talk.exchanges)
  complete : forall report, talk.result = some (.ok report) -> Returned run talk.exchanges report

theorem run_legal (run : Run Seconds Problem) (answers : List (Answer Seconds Problem)) :
    Legal run (milestones ((runCommerceBatch run).run answers).exchanges) := by
  refine (runCommerceBatch_holds run).always (fun _ _ guarded => guarded.legal)
    (fun _ result ends => ?_) answers
  cases result with
  | ok report => exact ends.2
  | error problem => exact ends

/-- The one replacement of a run: everything came before it, and it adds the record of the
batch that the run planned and reserved to the checkpoint that was there. -/
def Advanced (run : Run Seconds Problem) (initial : StateFile Checkpoint)
    (history : History Seconds Problem) : Prop :=
  Exists fun budget => Exists fun batch => Exists fun reserved =>
    Exists fun before => Exists fun reply => Exists fun after =>
      Exists fun state => Exists fun committed : CommerceBatch =>
        history = before ++ (.replaceCheckpoint (state.record batch.entry.batchId {
            batchAt := committed.batchAt
            manifestSha256 := batch.entry.manifestSha256 }), .ok reply) :: after ∧
          replacements (milestones before) = [] ∧ replacements (milestones after) = [] ∧
          Prepared run budget batch reserved before ∧
          milestones before = verifiedTrace run batch reserved ∧
          (Exists fun earlier => Exists fun reads =>
            before = earlier ++ reads ∧ BudgetLeft budget reads) ∧
          loadState initial = .ok state ∧ state.processed batch.entry.batchId = none

end Evidence

/-! ## A run over an environment that always answers -/

def sampleBatch : CommerceBatch where
  batchId := "0123456789abcdef"
  batchAt := 0
  manifestSha256 := "m"
  path := "s3://lake/"
  committedAt := none
  sourceSemantics := none

def sampleReply : Reply Int where
  seconds := 0
  landed := [sampleBatch]
  files := { checkpoint := .missing, active := .missing }
  rows := [.object [("days", .int 1), ("orders", .int 1), ("captured_revenue_cents", .int 5),
    ("invalid_days", .int 0)]]

def sampleRun : Run Int String where
  exceptions := {
    typeName := id
    isRunnerBusy := fun _ => false
    isTransportError := fun _ => false
    isHttpError := fun _ => false
    isProtocolError := fun _ => false
    isQueryError := fun _ => false
    causeStatus := fun _ => none }
  numbers := {
    ofInt := id
    isFinite := fun _ => true
    parseInt := fun _ => some 3600
    parseFloat := fun _ => none }
  runTimeout := none
  cycleDeadline := none
  attempts := 1
  delaySeconds := 2
  journaled := true
  statePath := "state.json"

def sampleHistory : History Int String :=
  ((runCommerceBatch sampleRun).run (List.replicate 120 (.ok sampleReply))).exchanges

end CommerceRun
end Pipeline
end LakehouseOps
