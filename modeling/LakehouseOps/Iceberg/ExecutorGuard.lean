import LakehouseOps.Iceberg.Executor

/-!
# What stands before a mutating call

Whatever the SQL engine answers, a mutating call is sent only when the approvals match
the plan and the state of the table that was read before it, and a run sends one such
call at most. A candidate view that was created is dropped on every path.
-/

namespace LakehouseOps
namespace Iceberg

open Library Library.Fallible

/-- Statements with the answers of the SQL engine. -/
abbrev Statements := Exchanges Query (Except String Rows)

/-! ## What the exchanges show -/

/-- The four exchanges from which the executor takes the state of the table. -/
structure StateRead
    (python : Python)
    (table : String)
    (exchanges : Statements)
    (state : TableState) : Prop where
  read : Exists fun parts => Exists fun current => Exists fun snapshots => Exists fun files =>
    Exists fun manifests =>
      tableParts table = .ok parts ∧
        exchanges = [(.history parts, .ok current), (.snapshots parts, .ok snapshots),
          (.dataFiles parts, .ok files), (.manifests parts, .ok manifests)] ∧
        tableStateOf python current snapshots files manifests = .ok state

/-- The statement reads the metadata of a table. -/
def Query.reading : Query -> Bool
  | .history _ => true
  | .snapshots _ => true
  | .dataFiles _ => true
  | .manifests _ => true
  | _ => false

/-- The statement creates a candidate view. -/
def Query.createsView : Query -> Option String
  | .createCandidateView view _ _ => some view
  | _ => none

/-- All statements read metadata. -/
def Reading (exchanges : Statements) : Prop :=
  forall exchange, exchange ∈ exchanges -> exchange.1.reading = true

/-- No statement changes the table. -/
def NothingChanged (exchanges : Statements) : Prop :=
  forall exchange, exchange ∈ exchanges -> exchange.1.mutating = false

/-- No statement creates a view. -/
def NoView (exchanges : Statements) : Prop :=
  forall exchange, exchange ∈ exchanges -> exchange.1.createsView = none

/-- Every view that was created was dropped. -/
def ViewsDropped (exchanges : Statements) : Prop :=
  forall exchange, exchange ∈ exchanges -> exchange.2.isOk = true ->
    forall view, exchange.1.createsView = some view ->
      Exists fun drop => drop ∈ exchanges ∧ drop.1 = .dropView view

theorem StateRead.reading
    {python : Python}
    {table : String}
    {exchanges : Statements}
    {state : TableState}
    (read : StateRead python table exchanges state) :
    Reading exchanges := by
  obtain ⟨parts, current, snapshots, files, manifests, _, rfl, _⟩ := read.read
  intro exchange member
  simp only [List.mem_cons, List.not_mem_nil, or_false] at member
  rcases member with rfl | rfl | rfl | rfl <;> rfl

theorem Query.not_mutating_of_reading {query : Query} (reading : query.reading = true) :
    query.mutating = false := by
  cases query <;> first | rfl | exact absurd reading Bool.false_ne_true

theorem Query.noView_of_reading {query : Query} (reading : query.reading = true) :
    query.createsView = none := by
  cases query <;> first | rfl | exact absurd reading Bool.false_ne_true

theorem Reading.nothingChanged {exchanges : Statements} (reading : Reading exchanges) :
    NothingChanged exchanges :=
  fun exchange member => Query.not_mutating_of_reading (reading exchange member)

theorem Reading.noView {exchanges : Statements} (reading : Reading exchanges) :
    NoView exchanges :=
  fun exchange member => Query.noView_of_reading (reading exchange member)

theorem NothingChanged.append
    {left right : Statements}
    (isLeft : NothingChanged left)
    (isRight : NothingChanged right) :
    NothingChanged (left ++ right) :=
  fun exchange member => (List.mem_append.mp member).elim (isLeft exchange) (isRight exchange)

theorem NoView.append
    {left right : Statements}
    (isLeft : NoView left)
    (isRight : NoView right) :
    NoView (left ++ right) :=
  fun exchange member => (List.mem_append.mp member).elim (isLeft exchange) (isRight exchange)

theorem NoView.singleton
    {query : Query}
    (none : query.createsView = none)
    (answer : Except String Rows) :
    NoView [(query, answer)] := by
  intro exchange member
  rw [List.mem_singleton.mp member]
  exact none

theorem NothingChanged.singleton
    {query : Query}
    (quiet : query.mutating = false)
    (answer : Except String Rows) :
    NothingChanged [(query, answer)] := by
  intro exchange member
  rw [List.mem_singleton.mp member]
  exact quiet

theorem NoView.dropped {exchanges : Statements} (none : NoView exchanges) :
    ViewsDropped exchanges := by
  intro exchange member _ view creates
  rw [none exchange member] at creates
  exact absurd creates.symm (Option.some_ne_none view)

theorem ViewsDropped.append
    {left right : Statements}
    (dropped : ViewsDropped left)
    (none : NoView right) :
    ViewsDropped (left ++ right) := by
  intro exchange member created view creates
  rcases List.mem_append.mp member with inLeft | inRight
  · obtain ⟨drop, isIn, isDrop⟩ := dropped exchange inLeft created view creates
    exact ⟨drop, List.mem_append_left right isIn, isDrop⟩
  · rw [none exchange inRight] at creates
    exact absurd creates.symm (Option.some_ne_none view)

/-- The rule of `_state`. -/
theorem holds_readState_bind
    {Value : Type}
    {guard : Statements -> Query -> Prop}
    {after : Statements -> Except String Value -> Prop}
    {before : Statements}
    {python : Python}
    {table : String}
    {next : TableState -> Session Value}
    (quiet : forall exchanges query, query.mutating = false -> guard exchanges query)
    (returned : forall reads state, StateRead python table reads state ->
      (next state).Holds guard after (before ++ reads))
    (failed : forall reads problem, Reading reads -> after (before ++ reads) (.error problem)) :
    (readState python table >>= next).Holds guard after before := by
  have reading : forall reads : Statements, reads.all (fun exchange => exchange.1.reading) ->
      forall problem, after (before ++ reads) (.error problem) :=
    fun reads all problem => failed reads problem (List.all_eq_true.mp all)
  apply Dialogue.Holds.bind
  unfold readState
  refine Dialogue.holds_attempt_bind (fun parts isParts => ?_) fun problem _ => ?_
  · refine Dialogue.holds_query_bind (quiet _ _ rfl) (fun current => ?_) fun problem =>
      reading _ rfl problem
    refine Dialogue.holds_query_bind (quiet _ _ rfl) (fun snapshots => ?_) fun problem => ?_
    · refine Dialogue.holds_query_bind (quiet _ _ rfl) (fun files => ?_) fun problem => ?_
      · refine Dialogue.holds_query_bind (quiet _ _ rfl) (fun manifests => ?_) fun problem => ?_
        · simp only [List.append_assoc, List.cons_append, List.nil_append]
          cases isState : tableStateOf python current snapshots files manifests with
          | ok state =>
              exact returned _ state
                ⟨parts, current, snapshots, files, manifests, isParts, rfl, isState⟩
          | error problem => exact reading _ rfl problem
        · simp only [List.append_assoc, List.cons_append, List.nil_append]
          exact reading _ rfl problem
      · simp only [List.append_assoc, List.cons_append, List.nil_append]
        exact reading _ rfl problem
    · simp only [List.append_assoc, List.cons_append, List.nil_append]
      exact reading _ rfl problem
  · have none := reading [] rfl problem
    rwa [List.append_nil] at none

/-! ## The checks of a procedure -/

/-- What an expiry reads from its action. -/
structure Expiry where
  snapshotIds : List String
  expectedHistory : List String
  maxSnapshots : Int

/-- The action states the expiry. -/
structure ExpiryStated (python : Python) (selected : Selected) (expiry : Expiry) : Prop where
  parameters : Exists fun parameters =>
    objectField selected.action "parameters" = .ok parameters ∧
      stringArrayField python parameters "snapshot_ids" = .ok expiry.snapshotIds
  history : stringArrayField python selected.safety "expected_history_snapshot_ids" =
    .ok expiry.expectedHistory
  bound : positiveBound selected.safety "max_snapshots_to_expire" = .ok expiry.maxSnapshots

/-- The expiry fits the live state of the table. -/
structure ExpiryAllowed (state : TableState) (expiry : Expiry) : Prop where
  nonempty : expiry.snapshotIds ≠ []
  bounded : (expiry.snapshotIds.length : Int) ≤ expiry.maxSnapshots
  unique : expiry.snapshotIds.Nodup
  history : forall id, id ∈ state.snapshotIds ↔ id ∈ expiry.expectedHistory
  keepsCurrent : state.snapshotId ∉ expiry.snapshotIds
  present : forall id, id ∈ expiry.snapshotIds -> id ∈ state.snapshotIds

/-- What a rewrite of data files reads from its action. -/
structure DataFilesStated (selected : Selected) (targetSize maxFiles : Int) : Prop where
  bound : positiveBound selected.safety "max_files_to_rewrite" = .ok maxFiles
  parameters : Exists fun parameters =>
    objectField selected.action "parameters" = .ok parameters ∧
      integerField parameters "target_file_size_bytes" = .ok targetSize
  positive : 0 < targetSize

/-- The checks of the action pass on the state, and the call is the one it asks for. -/
def Executable (python : Python) (selected : Selected) (state : TableState) (call : Query) :
    Prop :=
  Exists fun parts => tableParts selected.table = .ok parts ∧
    match selected.actionType with
    | .rewriteDataFiles => Exists fun targetSize => Exists fun maxFiles =>
        DataFilesStated selected targetSize maxFiles ∧
          call = .rewriteDataFiles parts targetSize maxFiles
    | .rewriteManifests => Exists fun maxManifests =>
        positiveBound selected.safety "max_manifests_to_rewrite" = .ok maxManifests ∧
          state.manifestCount ≤ maxManifests ∧ call = .rewriteManifests parts
    | .expireSnapshots => Exists fun expiry =>
        ExpiryStated python selected expiry ∧ ExpiryAllowed state expiry ∧
          call = .expireSnapshots parts expiry.snapshotIds
    | .inspectOrphanFiles => False

theorem sameElements_iff {left right : List String} :
    sameElements left right = true ↔ forall id, id ∈ left ↔ id ∈ right := by
  simp only [sameElements, Bool.and_eq_true, List.all_eq_true, decide_eq_true_eq]
  constructor
  · rintro ⟨forward, backward⟩ id
    exact ⟨forward id, backward id⟩
  · intro same
    exact ⟨fun id => (same id).mp, fun id => (same id).mpr⟩

theorem procedureCall_eq_ok_iff
    {python : Python}
    {selected : Selected}
    {state : TableState}
    {call : Query} :
    procedureCall python selected state = .ok call ↔
      Executable python selected state call := by
  unfold procedureCall Executable
  cases isType : selected.actionType with
  | rewriteDataFiles =>
      simp only [bind_eq_ok_iff, reject_eq_ok_iff]
      constructor
      · rintro ⟨maxFiles, bound, parameters, isParameters, targetSize, isSize, _, positive,
          parts, isParts, returned⟩
        injection returned with same
        exact ⟨parts, isParts, targetSize, maxFiles,
          ⟨bound, ⟨parameters, isParameters, isSize⟩, by omega⟩, same.symm⟩
      · rintro ⟨parts, isParts, targetSize, maxFiles,
          ⟨bound, ⟨parameters, isParameters, isSize⟩, positive⟩, rfl⟩
        exact ⟨maxFiles, bound, parameters, isParameters, targetSize, isSize, (), by omega,
          parts, isParts, rfl⟩
  | rewriteManifests =>
      simp only [bind_eq_ok_iff, reject_eq_ok_iff]
      constructor
      · rintro ⟨maxManifests, bound, _, within, parts, isParts, returned⟩
        injection returned with same
        exact ⟨parts, isParts, maxManifests, bound, by omega, same.symm⟩
      · rintro ⟨parts, isParts, maxManifests, bound, within, rfl⟩
        exact ⟨maxManifests, bound, (), by omega, parts, isParts, rfl⟩
  | expireSnapshots =>
      simp only [bind_eq_ok_iff, reject_eq_ok_iff, not_or, not_not, Bool.not_eq_true',
        Bool.not_eq_false, sameElements_iff, List.all_eq_true, decide_eq_true_eq, not_lt]
      constructor
      · rintro ⟨parameters, isParameters, snapshotIds, isIds, history, isHistory, maxSnapshots,
          isBound, _, ⟨nonempty, bounded⟩, _, unique, _, same, _, keepsCurrent, _, present,
          parts, isParts, returned⟩
        injection returned with isCall
        exact ⟨parts, isParts, ⟨snapshotIds, history, maxSnapshots⟩,
          ⟨⟨parameters, isParameters, isIds⟩, isHistory, isBound⟩,
          ⟨nonempty, bounded, unique, same, keepsCurrent, present⟩, isCall.symm⟩
      · rintro ⟨parts, isParts, ⟨snapshotIds, history, maxSnapshots⟩,
          ⟨⟨parameters, isParameters, isIds⟩, isHistory, isBound⟩,
          ⟨nonempty, bounded, unique, same, keepsCurrent, present⟩, rfl⟩
        exact ⟨parameters, isParameters, snapshotIds, isIds, history, isHistory, maxSnapshots,
          isBound, (), ⟨nonempty, bounded⟩, (), unique, (), same, (), keepsCurrent, (), present,
          parts, isParts, rfl⟩
  | inspectOrphanFiles => simp

theorem Executable.mutating
    {python : Python}
    {selected : Selected}
    {state : TableState}
    {call : Query}
    (executable : Executable python selected state call) :
    call.mutating = true ∧ call.createsView = none := by
  obtain ⟨parts, _, checked⟩ := executable
  cases isType : selected.actionType with
  | rewriteDataFiles =>
      rw [isType] at checked
      obtain ⟨_, _, _, rfl⟩ := checked
      exact ⟨rfl, rfl⟩
  | rewriteManifests =>
      rw [isType] at checked
      obtain ⟨_, _, _, rfl⟩ := checked
      exact ⟨rfl, rfl⟩
  | expireSnapshots =>
      rw [isType] at checked
      obtain ⟨_, _, _, rfl⟩ := checked
      exact ⟨rfl, rfl⟩
  | inspectOrphanFiles =>
      rw [isType] at checked
      exact checked.elim

/-! ## The approval of an orphan deletion -/

/-- The approved report shows the live state and the candidates. -/
structure ReportApproved
    (python : Python)
    (selected : Selected)
    (options : RunOptions)
    (olderThan : String)
    (state : TableState)
    (candidates : List String) : Prop where
  report : Exists fun entries => options.candidateReport = some (.object entries) ∧
    (Exists fun before => entries.lookup "before" = some (.object before) ∧
      reportedState python before = .ok state) ∧
    (Exists fun after => entries.lookup "after" = some (.object after) ∧
      reportedState python after = .ok state) ∧
    (Exists fun rows => candidateFileRows (entries.lookup "candidate_files") = .ok rows ∧
      orphanFiles rows = .ok candidates)
  setId : options.approvedCandidateSetId =
    some (candidateSetId python selected.table olderThan candidates)

theorem approvedOrphanCandidates_approved
    {python : Python}
    {selected : Selected}
    {options : RunOptions}
    {olderThan : String}
    {state : TableState}
    {maxCandidates : Int}
    {candidates : List String}
    (approved : approvedOrphanCandidates python options.candidateReport selected olderThan state
      options.approvedCandidateSetId maxCandidates = .ok candidates) :
    ReportApproved python selected options olderThan state candidates ∧
      (candidates.length : Int) ≤ maxCandidates := by
  unfold approvedOrphanCandidates at approved
  split at approved
  · next entries isReport =>
      simp only [bind_eq_ok_iff, reject_eq_ok_iff, objectField_eq_ok_iff, not_or, not_not,
        ne_eq, not_lt] at approved
      obtain ⟨_, _, _, _, _, _, beforeEntries, isBefore, before, readsBefore, afterEntries,
        isAfter, after, readsAfter, _, ⟨same, live⟩, rows, isRows, files, isFiles, _, bounded,
        _, _, _, _, _, _, _, _, _, isSet, returned⟩ := approved
      injection returned with isCandidates
      subst isCandidates live same
      exact ⟨⟨⟨entries, isReport, ⟨beforeEntries, isBefore, readsBefore⟩,
        ⟨afterEntries, isAfter, readsAfter⟩, ⟨rows, isRows, isFiles⟩⟩, isSet⟩, bounded⟩
  · contradiction

/-! ## The guard of a mutating call -/

/-- The caller asked to apply the plan and the snapshot of the action. -/
structure Approvals (selected : Selected) (options : RunOptions) : Prop where
  apply : options.apply = true
  plan : options.approvedPlanId = some selected.planId
  snapshot : options.approvedSnapshotId = some selected.expectedSnapshot

/-- The deletion of orphan files, after the view and a second dry run over it. -/
structure OrphanDeletion
    (python : Python)
    (selected : Selected)
    (options : RunOptions)
    (state : TableState)
    (exchanges : Statements)
    (call : Query) : Prop where
  inspection : selected.actionType = .inspectOrphanFiles
  verified : Exists fun olderThan => Exists fun candidates =>
    ReportApproved python selected options olderThan state candidates ∧
      Exists fun parts => Exists fun literal => Exists fun created => Exists fun rows =>
        let view := candidateView (candidateSetId python selected.table olderThan candidates)
        exchanges = [(.createCandidateView view literal candidates, .ok created),
            (.removeApprovedOrphans parts literal view true, .ok rows)] ∧
          orphanFiles rows = .ok candidates ∧
          tableParts selected.table = .ok parts ∧
          call = .removeApprovedOrphans parts literal view false

/-- What a mutating call needs: the approvals, the expected snapshot in the state that was
read, and the checks of its kind on this state. -/
structure CallApproved
    (python : Python)
    (plan : Json)
    (actionId : String)
    (options : RunOptions)
    (exchanges : Statements)
    (call : Query) : Prop where
  approved : Exists fun selected => Exists fun state => Exists fun reads => Exists fun later =>
    selectRun plan actionId = .ok selected ∧ Approvals selected options ∧
      StateRead python selected.table reads state ∧
      state.snapshotId = selected.expectedSnapshot ∧ exchanges = reads ++ later ∧
      (later = [] ∧ Executable python selected state call ∨
        OrphanDeletion python selected options state later call)

variable {python : Python} {plan : Json} {actionId : String} {options : RunOptions}

/-- The guard of every statement: a mutating call is approved and is the first. -/
def StatementGuard
    (python : Python)
    (plan : Json)
    (actionId : String)
    (options : RunOptions)
    (exchanges : Statements)
    (query : Query) : Prop :=
  query.mutating = true ->
    CallApproved python plan actionId options exchanges query ∧ NothingChanged exchanges

theorem statementGuard_of_quiet
    (exchanges : Statements)
    (query : Query)
    (quiet : query.mutating = false) :
    StatementGuard python plan actionId options exchanges query := by
  intro mutating
  rw [quiet] at mutating
  exact absurd mutating Bool.false_ne_true

theorem verifyApprovals_eq_ok {selected : Selected} {result : Unit}
    (apply : options.apply = true)
    (verified : verifyApprovals selected options = .ok result) :
    Approvals selected options := by
  simp only [verifyApprovals, bind_eq_ok_iff, reject_eq_ok_iff, ne_eq, not_not] at verified
  obtain ⟨_, samePlan, sameSnapshot⟩ := verified
  exact ⟨apply, samePlan, sameSnapshot⟩

/-- What is known once the state was read and has the expected snapshot. -/
structure Prepared
    (python : Python)
    (plan : Json)
    (actionId : String)
    (selected : Selected)
    (state : TableState)
    (reads : Statements) : Prop where
  selection : selectRun plan actionId = .ok selected
  read : StateRead python selected.table reads state
  snapshot : state.snapshotId = selected.expectedSnapshot

/-- A result after statements that create no view. -/
theorem holds_attempt
    {Value : Type}
    {guard : Statements -> Query -> Prop}
    {exchanges : Statements}
    (dropped : ViewsDropped exchanges)
    (outcome : Except String Value) :
    (Dialogue.attempt outcome : Session Value).Holds guard
      (fun later _ => ViewsDropped later) exchanges := by
  cases outcome <;> exact dropped

theorem callProcedure_holds
    {selected : Selected}
    {state : TableState}
    {reads : Statements}
    (prepared : Prepared python plan actionId selected state reads)
    (approvals : Approvals selected options)
    {call : Query}
    (executable : Executable python selected state call) :
    (callProcedure python selected state call).Holds
      (StatementGuard python plan actionId options)
      (fun exchanges _ => ViewsDropped exchanges) reads := by
  obtain ⟨_, noView⟩ := executable.mutating
  have reading := prepared.read.reading
  have none : forall answer, NoView (reads ++ [(call, answer)]) :=
    fun answer => reading.noView.append (NoView.singleton noView answer)
  refine Dialogue.holds_query_bind (fun _ => ⟨⟨selected, state, reads, [], prepared.selection,
    approvals, prepared.read, prepared.snapshot, (List.append_nil reads).symm,
    Or.inl ⟨rfl, executable⟩⟩, reading.nothingChanged⟩) (fun rows => ?_)
    fun problem => (none _).dropped
  split
  · next row =>
      refine Dialogue.holds_attempt_bind (fun result _ => ?_) fun _ _ => (none _).dropped
      refine holds_readState_bind statementGuard_of_quiet (fun more after read => ?_)
        fun more _ isReading => ((none _).append isReading.noView).dropped
      have still := ((none (.ok [row])).append read.reading.noView).dropped
      refine Dialogue.holds_attempt_bind (fun status _ => ?_) fun _ _ => still
      exact holds_attempt still _
  · exact (none _).dropped

theorem runProcedure_holds
    {selected : Selected}
    {state : TableState}
    {reads : Statements}
    (prepared : Prepared python plan actionId selected state reads) :
    (runProcedure python selected options state).Holds
      (StatementGuard python plan actionId options)
      (fun exchanges _ => ViewsDropped exchanges) reads := by
  have none := prepared.read.reading.noView.dropped
  unfold runProcedure
  split
  · next apply =>
      refine Dialogue.holds_attempt_bind (fun _ verified => ?_) fun _ _ => none
      refine Dialogue.holds_attempt_bind (fun call isCall => ?_) fun _ _ => none
      exact callProcedure_holds prepared (verifyApprovals_eq_ok apply verified)
        (procedureCall_eq_ok_iff.mp isCall)
  · exact holds_attempt none _

/-- The body between the creation of the view and its drop. -/
theorem deleteCandidates_holds
    {selected : Selected}
    {state : TableState}
    {reads : Statements}
    (prepared : Prepared python plan actionId selected state reads)
    (approvals : Approvals selected options)
    (inspection : selected.actionType = .inspectOrphanFiles)
    {olderThan : String}
    {candidates : List String}
    (report : ReportApproved python selected options olderThan state candidates)
    {literal : Int}
    (isLiteral : timestampLiteral python olderThan = .ok literal)
    (created : Rows) :
    let view := candidateView (candidateSetId python selected.table olderThan candidates)
    let start := reads ++ [(.createCandidateView view literal candidates, .ok created)]
    (deleteCandidates python selected.table olderThan view candidates).Holds
      (StatementGuard python plan actionId options)
      (fun exchanges _ => Exists fun more => exchanges = start ++ more ∧ NoView more) start := by
  intro view start
  have unchanged : NothingChanged start :=
    prepared.read.reading.nothingChanged.append (NothingChanged.singleton rfl _)
  have nothing : Exists fun more => start = start ++ more ∧ NoView more :=
    ⟨[], (List.append_nil start).symm, fun _ member => absurd member List.not_mem_nil⟩
  unfold deleteCandidates
  refine Dialogue.holds_attempt_bind (fun parts isParts => ?_) fun _ _ => nothing
  refine Dialogue.holds_attempt_bind (fun other isOther => ?_) fun _ _ => nothing
  have sameLiteral : other = literal := Except.ok.inj (isOther.symm.trans isLiteral)
  subst sameLiteral
  have verification : forall answer, NoView
      [(Query.removeApprovedOrphans parts other view true, answer)] := NoView.singleton rfl
  refine Dialogue.holds_query_bind (statementGuard_of_quiet _ _ rfl) (fun rows => ?_)
    fun _ => ⟨_, rfl, verification _⟩
  refine Dialogue.holds_attempt_bind (fun verified isVerified => ?_)
    fun _ _ => ⟨_, rfl, verification _⟩
  refine Dialogue.holds_reject_bind (fun same => ?_) fun _ => ⟨_, rfl, verification _⟩
  rw [not_ne_iff] at same
  subst same
  have deletion : forall answer, NoView
      ([(Query.removeApprovedOrphans parts other view true, .ok rows)] ++
        [(Query.removeApprovedOrphans parts other view false, answer)]) :=
    fun answer => (verification _).append (NoView.singleton rfl answer)
  refine Dialogue.holds_query_bind (fun _ => ⟨?_, ?_⟩) (fun deleted => ?_) fun _ => ?_
  · refine ⟨selected, state, reads, _, prepared.selection, approvals, prepared.read,
      prepared.snapshot, List.append_assoc reads _ _, Or.inr ⟨inspection, olderThan, verified,
        report, parts, other, created, rows, rfl, isVerified, isParts, rfl⟩⟩
  · exact unchanged.append (NothingChanged.singleton rfl _)
  · cases orphanFiles deleted <;>
      exact ⟨_, List.append_assoc start _ _, deletion _⟩
  · exact ⟨_, List.append_assoc start _ _, deletion _⟩

/-- Once the drop was sent, every view is dropped. -/
theorem viewsDropped_after_drop
    {reads more : Statements}
    (reading : Reading reads)
    (none : NoView more)
    (view : String)
    (literal : Int)
    (candidates : List String)
    (created dropped : Except String Rows) :
    ViewsDropped
      (reads ++ [(.createCandidateView view literal candidates, created)] ++ more ++
        [(.dropView view, dropped)]) := by
  intro exchange member _ other creates
  refine ⟨(.dropView view, dropped), List.mem_append_right _ (List.mem_singleton.mpr rfl), ?_⟩
  have isView : other = view := by
    simp only [List.mem_append, List.mem_singleton] at member
    rcases member with ((inReads | rfl) | inMore) | rfl
    · rw [reading.noView exchange inReads] at creates
      exact absurd creates.symm (Option.some_ne_none _)
    · exact (Option.some.inj creates).symm
    · rw [none exchange inMore] at creates
      exact absurd creates.symm (Option.some_ne_none _)
    · exact absurd creates.symm (Option.some_ne_none _)
  rw [isView]

theorem removeOrphanFiles_holds
    {selected : Selected}
    {state : TableState}
    {reads : Statements}
    (prepared : Prepared python plan actionId selected state reads)
    (approvals : Approvals selected options)
    (inspection : selected.actionType = .inspectOrphanFiles)
    {olderThan : String}
    {candidates : List String}
    (report : ReportApproved python selected options olderThan state candidates) :
    (removeOrphanFiles python selected olderThan state candidates).Holds
      (StatementGuard python plan actionId options)
      (fun exchanges _ => ViewsDropped exchanges) reads := by
  have reading := prepared.read.reading
  have none := reading.noView.dropped
  unfold removeOrphanFiles
  simp only
  split
  · exact holds_attempt none _
  · refine Dialogue.holds_attempt_bind (fun literal isLiteral => ?_) fun _ _ => none
    refine Dialogue.holds_query_bind (statementGuard_of_quiet _ _ rfl) (fun created => ?_)
      fun problem => ?_
    · apply Dialogue.Holds.bind
      apply Dialogue.Holds.lastly
      refine (deleteCandidates_holds prepared approvals inspection report isLiteral created).mono
        fun exchanges result ends => ?_
      obtain ⟨more, rfl, noView⟩ := ends
      have dropped := fun answer => viewsDropped_after_drop reading noView
        (candidateView (candidateSetId python selected.table olderThan candidates)) literal
        candidates (.ok created) answer
      refine Dialogue.holds_query_bind (statementGuard_of_quiet _ _ rfl) (fun rows => ?_)
        fun _ => dropped _
      cases result with
      | error problem => exact dropped _
      | ok deleted =>
          refine holds_readState_bind statementGuard_of_quiet (fun later after read => ?_)
            fun later _ isReading => (dropped _).append isReading.noView
          exact holds_attempt ((dropped _).append read.reading.noView) _
    · -- The creation raised, so there is no view to drop.
      intro exchange member created view creates
      rcases List.mem_append.mp member with inReads | last
      · rw [reading.noView exchange inReads] at creates
        exact absurd creates.symm (Option.some_ne_none _)
      · rw [List.mem_singleton.mp last] at created
        exact absurd created Bool.false_ne_true

theorem runOrphanFiles_holds
    {selected : Selected}
    {state : TableState}
    {reads : Statements}
    (prepared : Prepared python plan actionId selected state reads)
    (inspection : selected.actionType = .inspectOrphanFiles) :
    (runOrphanFiles python selected options state).Holds
      (StatementGuard python plan actionId options)
      (fun exchanges _ => ViewsDropped exchanges) reads := by
  have noView := prepared.read.reading.noView
  have none := noView.dropped
  unfold runOrphanFiles
  refine Dialogue.holds_attempt_bind (fun parameters _ => ?_) fun _ _ => none
  refine Dialogue.holds_attempt_bind (fun olderThan _ => ?_) fun _ _ => none
  split
  · next apply =>
      refine Dialogue.holds_attempt_bind (fun _ verified => ?_) fun _ _ => none
      refine Dialogue.holds_attempt_bind (fun maxCandidates _ => ?_) fun _ _ => none
      refine Dialogue.holds_attempt_bind (fun candidates isApproved => ?_) fun _ _ => none
      exact removeOrphanFiles_holds prepared (verifyApprovals_eq_ok apply verified) inspection
        (approvedOrphanCandidates_approved isApproved).1
  · unfold inspectOrphanFiles
    refine Dialogue.holds_attempt_bind (fun parts _ => ?_) fun _ _ => none
    refine Dialogue.holds_attempt_bind (fun literal _ => ?_) fun _ _ => none
    have still : forall answer, ViewsDropped
        (reads ++ [(Query.inspectOrphanFiles parts literal, answer)]) :=
      fun answer => (noView.append (NoView.singleton rfl answer)).dropped
    refine Dialogue.holds_query_bind (statementGuard_of_quiet _ _ rfl) (fun rows => ?_)
      fun _ => still _
    refine Dialogue.holds_attempt_bind (fun candidates _ => ?_) fun _ _ => still _
    refine Dialogue.holds_attempt_bind (fun bound _ => ?_) fun _ _ => still _
    refine Dialogue.holds_reject_bind (fun _ => ?_) fun _ => still _
    exact holds_attempt (still _) _

/-- Every statement of a run is guarded, and at its end every view is dropped. -/
theorem run_holds :
    (run python plan actionId options).Holds (StatementGuard python plan actionId options)
      (fun exchanges _ => ViewsDropped exchanges) [] := by
  have empty : NoView [] := fun _ member => absurd member List.not_mem_nil
  unfold run
  refine Dialogue.holds_attempt_bind (fun selected selection => ?_) fun _ _ => empty.dropped
  refine holds_readState_bind statementGuard_of_quiet (fun reads state read => ?_)
    fun reads _ isReading => isReading.noView.dropped
  rw [List.nil_append]
  refine Dialogue.holds_reject_bind (fun same => ?_) fun _ => read.reading.noView.dropped
  have prepared : Prepared python plan actionId selected state reads :=
    ⟨selection, read, not_ne_iff.mp same⟩
  split
  · next inspection => exact runOrphanFiles_holds prepared inspection
  · exact runProcedure_holds prepared

/-! ## Runs of the executor -/

/-- What holds of a run, finished or cut off. -/
structure RunGuarded
    (python : Python)
    (plan : Json)
    (actionId : String)
    (options : RunOptions)
    (talk : Dialogue.Talk Query (Except String Rows) String MaintenanceExecutionReport) :
    Prop where
  /-- Every mutating call is approved by what was read before it. -/
  approved : forall exchanges call, talk.Sent exchanges call -> call.mutating = true ->
    CallApproved python plan actionId options exchanges call
  /-- No mutating call comes after another. -/
  once : forall exchanges call, talk.Sent exchanges call -> call.mutating = true ->
    NothingChanged exchanges
  /-- When the run has ended, every view that was created was dropped. -/
  dropped : talk.result.isSome = true -> ViewsDropped talk.exchanges

/-- Whatever the SQL engine answers, the executor guards its mutating calls. -/
theorem executor_guards_mutations
    (python : Python)
    (plan : Json)
    (actionId : String)
    (options : RunOptions)
    (answers : List (Except String Rows)) :
    RunGuarded python plan actionId options
      ((run python plan actionId options).run answers) where
  approved exchanges call sent mutating := by
    have guarded := run_holds.sent answers sent
    exact (guarded mutating).1
  once exchanges call sent mutating := by
    have guarded := run_holds.sent answers sent
    exact (guarded mutating).2
  dropped ended := by
    obtain ⟨result, isResult⟩ := Option.isSome_iff_exists.mp ended
    exact run_holds.ended answers isResult

end Iceberg
end LakehouseOps
