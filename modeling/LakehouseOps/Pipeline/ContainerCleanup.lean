import LakehouseOps.Library.Dialogue
import LakehouseOps.Library.Fallible
import LakehouseOps.Library.Truthiness

/-!
# Cleanup of a container

The cleanup of a stage's container asks three sources: the journal of launches, an inspection
of the container, and docker when it removes it. Each of them may answer anything or raise.
-/

namespace LakehouseOps
namespace Pipeline
namespace ContainerCleanup

open Library Library.Document Library.Fallible

variable {Double : Type}

/-! ## Sources -/

/-- The exceptions that a handler looks at. -/
inductive Kind
  | runnerBusy
  | osError
  | timeoutExpired
  | valueError
  | keyError
  | typeError
  | attributeError
  | other
  deriving DecidableEq

/-- An exception, with `type(error).__name__`. -/
structure Raised where
  kind : Kind
  name : Text

/-- A row of `commerce_container_events`. -/
structure ContainerEvent where
  sequence : Int
  runId : Text
  batchId : Text
  manifestSha256 : Text
  service : Text
  containerName : Text
  projectHint : Text
  event : Text

structure CompletedProcess where
  returncode : Int
  stdout : Text
  stderr : Text

/-- What is asked: the runner's lock, the journal, docker. -/
inductive Request
  | lock
  | journal
  | inspect (name : Text)
  | remove (containerId : Text)
  | confirm (containerId : Text)
  | unlock
  deriving DecidableEq

/-- What is answered: the rows of the journal, or a process that has completed. -/
structure Reply where
  events : List ContainerEvent
  process : CompletedProcess

abbrev Answer := Except Raised Reply

/-- What was asked and answered. -/
abbrev History := Exchanges Request Answer

/-- What Python makes of texts. -/
structure Python (Double : Type) where
  lower : Text -> Text
  loads : Text -> Except Raised (Document Double)
  isZero : Double -> Bool

/-- A text of the given number of lowercase hexadecimal digits. -/
def isHex (count : Nat) (points : Text) : Bool :=
  points.length = count && points.all fun point => decide (point ∈ text "0123456789abcdef")

/-- The two answers of docker that there is no such container. -/
def missing (name : Text) : List Text :=
  [text "error: no such container: " ++ name,
    text "error response from daemon: no such container: " ++ name]

/-! ## Inspection -/

/-- A recorded container with what was observed. -/
structure Observed (Double : Type) where
  row : ContainerEvent
  observation : Text
  containerId : Option (Document Double)

/-- `value[key]` -/
def getItem (value : Document Double) (key : String) : Except Raised (Document Double) :=
  match value with
  | .object fields =>
      match fields.lookup (text key) with
      | some found => .ok found
      | none => .error ⟨.keyError, text "KeyError"⟩
  | _ => .error ⟨.typeError, text "TypeError"⟩

/-- The labels of the container of a launch. -/
def wantedLabels (project : Text) (row : ContainerEvent) : List (Text × Text) :=
  [(text "lakehouse.ops.run_id", row.runId),
    (text "lakehouse.ops.batch_id", row.batchId),
    (text "lakehouse.ops.manifest_sha256", row.manifestSha256),
    (text "com.docker.compose.project", project),
    (text "com.docker.compose.service", row.service)]

def isText (field : Option (Document Double)) (expected : Text) : Bool :=
  match field with
  | some (.string value) => value = expected
  | _ => false

/-- `all(labels.get(key) == value for key, value in wanted.items())` -/
def labelsMatch (wanted : List (Text × Text)) (labels : Document Double) : Except Raised Bool :=
  match labels with
  | .object fields => .ok (wanted.all fun label => isText (fields.lookup label.1) label.2)
  | _ => .error ⟨.attributeError, text "AttributeError"⟩

def supportedStates : List Text :=
  [text "running", text "exited", text "created", text "paused", text "restarting", text "dead",
    text "removing"]

/-- The state of a container, with its id. -/
def containerState (container : Document Double) : Except Raised (Text × Option (Document Double)) := do
  let state <- getItem container "State"
  let status <- getItem state "Status"
  match status with
  | .string status =>
      if status ∈ supportedStates then
        (getItem container "Id").map fun containerId => (status, some containerId)
      else .error ⟨.valueError, text "ValueError"⟩
  | .array _ | .object _ => .error ⟨.typeError, text "TypeError"⟩
  | _ => .error ⟨.valueError, text "ValueError"⟩

/-- What is observed of the container that an inspection found. -/
def observeContainer
    (python : Python Double)
    (project : Text)
    (row : ContainerEvent)
    (container : Document Double) : Except Raised (Text × Option (Document Double)) := do
  let config <- getItem container "Config"
  let labels <- getItem config "Labels"
  let name <- getItem container "Name"
  if isText (some name) (text "/" ++ row.containerName) = false then
    .ok (text "ownership_mismatch", none)
  else do
    let same <- labelsMatch (wantedLabels project row)
      (if truthy python.isZero labels = true then labels else .object [])
    if same = false then .ok (text "ownership_mismatch", none) else containerState container

/-- What is observed in the answer of `docker container inspect`. -/
def observeProcess
    (python : Python Double)
    (project : Text)
    (row : ContainerEvent)
    (process : CompletedProcess) : Except Raised (Text × Option (Document Double)) :=
  if process.returncode ≠ 0 then
    if python.lower (stripPoints process.stderr) ∈ (missing row.containerName).map python.lower then
      .ok (text "absent", none)
    else .ok (text "inspect_failed", none)
  else do
    let data <- python.loads process.stdout
    match data with
    | .array [container] => observeContainer python project row container
    | _ => .error ⟨.valueError, text "ValueError"⟩

/-- The exceptions that leave a container unobserved. -/
def Kind.isUnobserved (kind : Kind) : Bool :=
  kind ∈ [Kind.osError, .timeoutExpired, .valueError, .keyError, .typeError, .attributeError]

/-- The observation of a row, by the answer to the inspection. -/
def observeRow
    (python : Python Double)
    (project : Text)
    (row : ContainerEvent)
    (answer : Answer) : Except Raised (Observed Double) :=
  match answer >>= fun reply => observeProcess python project row reply.process with
  | .ok (observation, containerId) => .ok { row, observation, containerId }
  | .error raised =>
      if raised.kind.isUnobserved = true then
        .ok { row, observation := text "inspect_failed", containerId := none }
      else .error raised

/-- The loop over the rows. -/
def inspectRows (python : Python Double) (project : Text) :
    List ContainerEvent -> Dialogue Request Answer Raised (List (Observed Double))
  | [] => .done []
  | row :: rows =>
      .ask (.inspect row.containerName) fun answer =>
        Dialogue.attempt (observeRow python project row answer) >>= fun observed =>
          inspectRows python project rows >>= fun others => .done (observed :: others)

/-- The launches of a container that the journal has for a run in a project. -/
def launchIntents (events : List ContainerEvent) (project runId containerName : Text) :
    List ContainerEvent :=
  events.filter fun event => event.projectHint = project ∧ event.event = text "launch_intent" ∧
    event.runId = runId ∧ event.containerName = containerName

/-- `SELECT .. ORDER BY sequence DESC LIMIT ..` -/
def selectIntents (events : List ContainerEvent) (project runId containerName : Text)
    (limit : Nat) : List ContainerEvent :=
  ((launchIntents events project runId containerName).mergeSort fun left right =>
    decide (right.sequence ≤ left.sequence)).take limit

/-- `inspect_containers`, for a run and a container: what was observed, and whether there is
more. -/
def inspectContainers (python : Python Double) (project runId containerName : Text)
    (limit : Nat) : Dialogue Request Answer Raised (List (Observed Double) × Bool) := do
  Dialogue.reject (project = [] ∨ ¬(1 ≤ limit ∧ limit ≤ 100)) ⟨.valueError, text "ValueError"⟩
  let reply <- Dialogue.query .journal
  let rows := selectIntents reply.events project runId containerName (limit + 1)
  let containers <- inspectRows python project (rows.take limit)
  return (containers, decide (limit < rows.length))

/-! ## Cleanup -/

inductive Status
  | refused
  | incomplete
  | ready
  deriving DecidableEq

/-- The report; what repeats the arguments is left out. -/
structure Report where
  status : Status
  reason : Option Text
  action : Option Text
  containerId : Option Text

def refused (reason : Text) : Report where
  status := .refused
  reason := some reason
  action := none
  containerId := none

def incomplete (reason : Text) (containerId : Option Text) : Report where
  status := .incomplete
  reason := some reason
  action := none
  containerId

def ready (action : Text) (containerId : Option Text) : Report where
  status := .ready
  reason := none
  action := some action
  containerId

/-- A part of the cleanup; an exception comes with the id that the report has by then. -/
abbrev Cleanup (Value : Type) := Dialogue Request Answer (Option Text × Raised) Value

/-- The removal, by the immutable id, and its confirmation. -/
def removeContainer (python : Python Double) (containerId : Text) : Cleanup Report :=
  .ask (.remove containerId) fun
    | .error raised => .fail (some containerId, raised)
    | .ok removed =>
        if removed.process.returncode ≠ 0 then
          .done (incomplete (text "remove_failed") (some containerId))
        else
          .ask (.confirm containerId) fun
            | .error raised => .fail (some containerId, raised)
            | .ok confirmed =>
                if confirmed.process.returncode = 0 ∨
                    python.lower (stripPoints confirmed.process.stderr) ∉ missing containerId then
                  .done (incomplete (text "absence_unconfirmed") (some containerId))
                else .done (ready (text "removed") (some containerId))

def removableStates : List Text :=
  [text "running", text "exited", text "created", text "paused", text "restarting", text "dead"]

/-- What is done about the one container that was observed. -/
def cleanupObserved (python : Python Double) (item : Observed Double) : Cleanup Report :=
  if item.observation = text "absent" then .done (ready (text "already_absent") none)
  else if item.observation ∉ removableStates then .done (refused item.observation)
  else
    match item.containerId with
    | some (.string containerId) =>
        if isHex 64 containerId = true then removeContainer python containerId
        else .done (refused (text "invalid_immutable_container_id"))
    | _ => .done (refused (text "invalid_immutable_container_id"))

/-- What is done about what was observed. -/
def cleanupInspected (python : Python Double) :
    Except Raised (List (Observed Double) × Bool) -> Cleanup Report
  | .error raised => .fail (none, raised)
  | .ok ([item], false) => cleanupObserved python item
  | .ok _ => .done (refused (text "requires_one_recorded_launch_intent"))

/-- The body of the `with` statement. -/
def cleanupLocked (python : Python Double) (project runId containerName : Text) : Cleanup Report :=
  (inspectContainers python project runId containerName 2).recover (cleanupInspected python)

/-- The `except` clauses. -/
def handle (containerId : Option Text) (raised : Raised) : Dialogue Request Answer Raised Report :=
  if raised.kind = .runnerBusy then
    .done { refused (text "active_local_runner_lock") with containerId }
  else if raised.kind ∈ [Kind.osError, .timeoutExpired, .valueError] then
    .done (incomplete raised.name containerId)
  else .fail raised

/-- The end of the `with` statement: the lock is released, which may raise as well. -/
def unlockRunner (outcome : Except (Option Text × Raised) Report) :
    Dialogue Request Answer Raised Report :=
  .ask .unlock fun answer =>
    match answer, outcome with
    | .ok _, .ok report => .done report
    | .ok _, .error (containerId, raised) => handle containerId raised
    | .error raised, .ok report => handle report.containerId raised
    | .error raised, .error (containerId, _) => handle containerId raised

/-- The check of the arguments. -/
def isScoped (project runId containerName : Text) : Bool :=
  (text "lakehouse-ops-").isPrefixOf project && isHex 32 runId &&
    ((text "lakeops-commerce-").isPrefixOf containerName &&
      isHex 32 (containerName.drop (text "lakeops-commerce-").length))

/-- `cleanup_container` -/
def cleanupContainer (python : Python Double) (project runId containerName : Text) :
    Dialogue Request Answer Raised Report :=
  if isScoped project runId containerName = false then .fail ⟨.valueError, text "ValueError"⟩
  else
    .ask .lock fun
      | .error raised => handle none raised
      | .ok _ => (cleanupLocked python project runId containerName).recover unlockRunner

/-! ## What an inspection proves -/

/-- The container of an inspection has the name and the labels of the launch, and the id. -/
structure Owned (project : Text) (row : ContainerEvent) (container : List (Text × Document Double))
    (containerId : Document Double) : Prop where
  name : container.lookup (text "Name") = some (.string (text "/" ++ row.containerName))
  labels : Exists fun config => Exists fun labels =>
    container.lookup (text "Config") = some (.object config) ∧
      config.lookup (text "Labels") = some (.object labels) ∧
      forall label, label ∈ wantedLabels project row ->
        labels.lookup label.1 = some (.string label.2)
  containerId : container.lookup (text "Id") = some containerId

/-- Docker's answer that there is no container of the name. -/
structure Missing (python : Python Double) (name : Text) (process : CompletedProcess) : Prop where
  failed : process.returncode ≠ 0
  exact : python.lower (stripPoints process.stderr) ∈ missing name ∨
    python.lower (stripPoints process.stderr) ∈ (missing name).map python.lower

/-- Docker's answer to an inspection that found the container of a launch. -/
structure Found (python : Python Double) (project : Text) (row : ContainerEvent)
    (containerId : Document Double) (process : CompletedProcess) : Prop where
  succeeded : process.returncode = 0
  container : Exists fun container =>
    python.loads process.stdout = .ok (.array [.object container]) ∧
      Owned project row container containerId

theorem getItem_eq_ok {value found : Document Double} {key : String}
    (got : getItem value key = .ok found) :
    Exists fun fields => value = .object fields ∧ fields.lookup (text key) = some found := by
  cases value with
  | object fields =>
      rw [getItem] at got
      cases isFound : fields.lookup (text key) with
      | none =>
          rw [isFound] at got
          nomatch got
      | some other =>
          rw [isFound] at got
          exact ⟨fields, rfl, isFound.trans (congrArg some (Except.ok.inj got))⟩
  | _ => nomatch got

theorem eq_of_isText {field : Option (Document Double)} {expected : Text}
    (same : isText field expected = true) : field = some (.string expected) := by
  cases field with
  | none => nomatch same
  | some value =>
      cases value with
      | string found => rw [of_decide_eq_true same]
      | _ => nomatch same

theorem containerState_returned {container : Document Double} {status : Text}
    {found : Option (Document Double)}
    (observed : containerState container = .ok (status, found)) :
    status ∈ supportedStates ∧
      Exists fun containerId => found = some containerId ∧
        getItem container "Id" = .ok containerId := by
  obtain ⟨state, _, observed⟩ := bind_eq_ok_iff.mp observed
  obtain ⟨value, _, observed⟩ := bind_eq_ok_iff.mp observed
  cases value with
  | string status =>
      dsimp only at observed
      by_cases supported : status ∈ supportedStates
      · rw [if_pos supported] at observed
        cases isId : getItem container "Id" with
        | error raised =>
            rw [isId] at observed
            nomatch observed
        | ok containerId =>
            rw [isId] at observed
            obtain ⟨rfl, rfl⟩ := Prod.mk.inj (Except.ok.inj observed)
            exact ⟨supported, containerId, rfl, rfl⟩
      · rw [if_neg supported] at observed
        nomatch observed
  | _ => nomatch observed

theorem labels_of_match {wanted : List (Text × Text)} {labels : Document Double}
    {isZero : Double -> Bool} {label : Text × Text} (isWanted : label ∈ wanted)
    (same : labelsMatch wanted (if truthy isZero labels = true then labels else .object []) =
      .ok true) :
    Exists fun fields => labels = .object fields ∧
      forall label, label ∈ wanted -> fields.lookup label.1 = some (.string label.2) := by
  by_cases holds : truthy isZero labels = true
  · rw [if_pos holds] at same
    cases labels with
    | object fields =>
        refine ⟨fields, rfl, fun label member => eq_of_isText ?_⟩
        exact List.all_eq_true.mp (Except.ok.inj same) label member
    | _ => nomatch same
  · rw [if_neg holds] at same
    exact nomatch eq_of_isText (List.all_eq_true.mp (Except.ok.inj same) label isWanted)

/-- An observation that is no mismatch is of a container of the launch, with its id. -/
theorem observeContainer_returned {python : Python Double} {project : Text}
    {row : ContainerEvent} {container : Document Double} {observation : Text}
    {found : Option (Document Double)}
    (observed : observeContainer python project row container = .ok (observation, found)) :
    (observation = text "ownership_mismatch" ∧ found = none) ∨
      (observation ∈ supportedStates ∧ Exists fun fields => Exists fun containerId =>
        container = .object fields ∧ found = some containerId ∧
          Owned project row fields containerId) := by
  obtain ⟨config, isConfig, observed⟩ := bind_eq_ok_iff.mp observed
  obtain ⟨labels, isLabels, observed⟩ := bind_eq_ok_iff.mp observed
  obtain ⟨name, isName, observed⟩ := bind_eq_ok_iff.mp observed
  by_cases otherName : isText (some name) (text "/" ++ row.containerName) = false
  · rw [if_pos otherName] at observed
    obtain ⟨rfl, rfl⟩ := Prod.mk.inj (Except.ok.inj observed)
    exact .inl ⟨rfl, rfl⟩
  · rw [if_neg otherName] at observed
    obtain ⟨same, isSame, observed⟩ := bind_eq_ok_iff.mp observed
    cases same with
    | false =>
        obtain ⟨rfl, rfl⟩ := Prod.mk.inj (Except.ok.inj observed)
        exact .inl ⟨rfl, rfl⟩
    | true =>
        obtain ⟨supported, containerId, isFound, isId⟩ := containerState_returned observed
        obtain ⟨fields, rfl, hasConfig⟩ := getItem_eq_ok isConfig
        obtain ⟨configFields, rfl, hasLabels⟩ := getItem_eq_ok isLabels
        obtain ⟨_, sameName, hasName⟩ := getItem_eq_ok isName
        obtain ⟨_, sameId, hasId⟩ := getItem_eq_ok isId
        cases sameName
        cases sameId
        obtain ⟨labelFields, rfl, each⟩ := labels_of_match List.mem_cons_self isSame
        refine .inr ⟨supported, fields, containerId, rfl, isFound, ?_⟩
        exact {
          name := hasName.trans (eq_of_isText (Bool.eq_true_of_not_eq_false otherName))
          labels := ⟨configFields, labelFields, hasConfig, hasLabels, each⟩
          containerId := hasId
        }

theorem observeProcess_returned {python : Python Double} {project : Text}
    {row : ContainerEvent} {process : CompletedProcess} {observation : Text}
    {found : Option (Document Double)}
    (observed : observeProcess python project row process = .ok (observation, found)) :
    (observation = text "absent" -> Missing python row.containerName process) ∧
      forall containerId, found = some containerId ->
        Found python project row containerId process := by
  rw [observeProcess] at observed
  by_cases failed : process.returncode ≠ 0
  · rw [if_pos failed] at observed
    by_cases isMissing : python.lower (stripPoints process.stderr) ∈
        (missing row.containerName).map python.lower
    · rw [if_pos isMissing] at observed
      obtain ⟨rfl, rfl⟩ := Prod.mk.inj (Except.ok.inj observed)
      exact ⟨fun _ => ⟨failed, .inr isMissing⟩, fun _ none => nomatch none⟩
    · rw [if_neg isMissing] at observed
      obtain ⟨rfl, rfl⟩ := Prod.mk.inj (Except.ok.inj observed)
      exact ⟨fun isAbsent => absurd isAbsent (by decide), fun _ none => nomatch none⟩
  · rw [if_neg failed] at observed
    obtain ⟨data, isData, observed⟩ := bind_eq_ok_iff.mp observed
    have returned : Exists fun container => data = .array [container] ∧
        observeContainer python project row container = .ok (observation, found) := by
      cases data with
      | array values =>
          rcases values with _ | ⟨container, _ | ⟨second, rest⟩⟩
          · nomatch observed
          · exact ⟨container, rfl, observed⟩
          · nomatch observed
      | _ => nomatch observed
    obtain ⟨container, rfl, observed⟩ := returned
    rcases observeContainer_returned observed with ⟨rfl, rfl⟩ | ⟨supported, fields, id, rfl, rfl, owned⟩
    · exact ⟨fun isAbsent => absurd isAbsent (by decide), fun _ none => nomatch none⟩
    · refine ⟨fun isAbsent => ?_, fun containerId same => ?_⟩
      · rw [isAbsent] at supported
        exact absurd supported (by decide)
      · rw [← Option.some.inj same]
        exact ⟨not_not.mp failed, fields, isData, owned⟩

/-- What an observed row says of the answer to the inspection. -/
theorem observeRow_returned {python : Python Double} {project : Text} {row : ContainerEvent}
    {answer : Answer} {item : Observed Double}
    (observed : observeRow python project row answer = .ok item) :
    item.row = row ∧
      (item.observation = text "absent" -> Exists fun reply => answer = .ok reply ∧
        Missing python row.containerName reply.process) ∧
      forall containerId, item.containerId = some containerId ->
        Exists fun reply => answer = .ok reply ∧
          Found python project row containerId reply.process := by
  rw [observeRow] at observed
  cases outcome : answer >>= fun reply => observeProcess python project row reply.process with
  | error raised =>
      rw [outcome] at observed
      dsimp only at observed
      by_cases unobserved : raised.kind.isUnobserved = true
      · rw [if_pos unobserved] at observed
        rw [← Except.ok.inj observed]
        have isFailure : text "inspect_failed" ≠ text "absent" := by
          decide
        exact ⟨rfl, fun isAbsent => absurd isAbsent isFailure, fun _ none => nomatch none⟩
      · rw [if_neg unobserved] at observed
        nomatch observed
  | ok pair =>
      rw [outcome] at observed
      obtain ⟨reply, isReply, processed⟩ := bind_eq_ok_iff.mp outcome
      obtain ⟨isMissing, isFound⟩ := observeProcess_returned processed
      rw [← Except.ok.inj observed]
      exact ⟨rfl, fun isAbsent => ⟨reply, isReply, isMissing isAbsent⟩,
        fun containerId same => ⟨reply, isReply, isFound containerId same⟩⟩

/-! ## What the cleanup promises -/

/-- The lock was acquired and not released since. -/
def Held (history : History) : Prop :=
  Exists fun earlier => Exists fun reply => Exists fun later =>
    history = earlier ++ (.lock, .ok reply) :: later ∧
      forall answer, (Request.unlock, answer) ∉ later

/-- The journal has one launch of the container for the run, and an inspection found the
container of this launch, with the id. -/
structure Proven (python : Python Double) (project runId containerName containerId : Text)
    (history : History) : Prop where
  immutable : isHex 64 containerId = true
  launch : Exists fun journal => Exists fun intent => Exists fun inspection =>
    (Request.journal, .ok journal) ∈ history ∧
      launchIntents journal.events project runId containerName = [intent] ∧
      (Request.inspect containerName, .ok inspection) ∈ history ∧
      Found python project intent (.string containerId) inspection.process

/-- What the code makes sure of before it asks docker to remove a container. -/
structure RemovalGuarded (python : Python Double) (project runId containerName containerId : Text)
    (history : History) : Prop where
  first : forall other answer, (Request.remove other, answer) ∉ history
  held : Held history
  proven : Proven python project runId containerName containerId history

/-- Docker said that the container is absent: before, or after it was removed. -/
def ConfirmedAbsent (python : Python Double) (containerName : Text) (history : History) : Prop :=
  (Exists fun inspection => (Request.inspect containerName, .ok inspection) ∈ history ∧
    Missing python containerName inspection.process) ∨
  Exists fun containerId => Exists fun earlier => Exists fun removed => Exists fun confirmed =>
    Exists fun later =>
      history = earlier ++ (.remove containerId, .ok removed) ::
          (.confirm containerId, .ok confirmed) :: later ∧
        removed.process.returncode = 0 ∧ Missing python containerId confirmed.process

/-- A request is sent only under its guard. -/
def Guarded (python : Python Double) (project runId containerName : Text) (history : History) :
    Request -> Prop
  | .remove containerId => RemovalGuarded python project runId containerName containerId history
  | _ => True

/-- The lock is held and no container was removed. -/
structure Quiet (history : History) : Prop where
  held : Held history
  noRemoval : forall other answer, (Request.remove other, answer) ∉ history

theorem Held.append {history : History} (held : Held history) {request : Request}
    (locked : request ≠ .unlock) (answer : Answer) : Held (history ++ [(request, answer)]) := by
  obtain ⟨earlier, reply, later, rfl, noneSince⟩ := held
  refine ⟨earlier, reply, later ++ [(request, answer)], List.append_assoc _ _ _,
    fun other member => ?_⟩
  rcases List.mem_append.mp member with before | last
  · exact noneSince other before
  · exact locked (Prod.mk.inj (List.mem_singleton.mp last)).1.symm

theorem Quiet.append {history : History} (quiet : Quiet history) {request : Request}
    (locked : request ≠ .unlock) (keeps : forall containerId, request ≠ .remove containerId)
    (answer : Answer) : Quiet (history ++ [(request, answer)]) where
  held := quiet.held.append locked answer
  noRemoval := by
    intro containerId other member
    rcases List.mem_append.mp member with before | last
    · exact quiet.noRemoval containerId other before
    · exact keeps containerId (Prod.mk.inj (List.mem_singleton.mp last)).1.symm

/-- What the loop over the rows observes is backed by answers to inspections. -/
structure Backed (python : Python Double) (project : Text) (history : History)
    (item : Observed Double) : Prop where
  absent : item.observation = text "absent" -> Exists fun inspection =>
    (Request.inspect item.row.containerName, .ok inspection) ∈ history ∧
      Missing python item.row.containerName inspection.process
  found : forall containerId, item.containerId = some containerId -> Exists fun inspection =>
    (Request.inspect item.row.containerName, .ok inspection) ∈ history ∧
      Found python project item.row containerId inspection.process

section Runs

variable {python : Python Double} {project runId containerName : Text}

theorem inspectRows_holds (rows : List ContainerEvent) {before : History} (quiet : Quiet before) :
    (inspectRows python project rows).Holds (Guarded python project runId containerName)
      (fun history result => before ⊆ history ∧ Quiet history ∧
        forall items, result = .ok items -> items.map Observed.row = rows ∧
          forall item, item ∈ items -> Backed python project history item) before := by
  induction rows generalizing before with
  | nil =>
      refine ⟨fun _ => id, quiet, fun items same => ?_⟩
      rw [← Except.ok.inj same]
      exact ⟨rfl, fun item member => absurd member List.not_mem_nil⟩
  | cons row rows inductionHypothesis =>
      refine ⟨trivial, fun answer => ?_⟩
      have later : Quiet (before ++ [(.inspect row.containerName, answer)]) :=
        quiet.append Request.noConfusion (fun _ => Request.noConfusion) answer
      have kept : before ⊆ before ++ [(.inspect row.containerName, answer)] :=
        List.subset_append_left _ _
      refine Dialogue.holds_attempt_bind (fun observed isObserved => ?_) fun raised _ =>
        ⟨kept, later, fun items same => nomatch same⟩
      refine Dialogue.Holds.bind ((inductionHypothesis later).mono fun history result ends => ?_)
      obtain ⟨grown, isQuiet, backed⟩ := ends
      cases result with
      | error raised =>
          exact ⟨List.Subset.trans kept grown, isQuiet, fun items same => nomatch same⟩
      | ok others =>
          refine ⟨List.Subset.trans kept grown, isQuiet, fun items same => ?_⟩
          obtain ⟨isRow, isAbsent, isFound⟩ := observeRow_returned isObserved
          obtain ⟨areRows, areBacked⟩ := backed others rfl
          have asked : (Request.inspect row.containerName, answer) ∈ history :=
            grown (List.mem_append_right _ List.mem_cons_self)
          rw [← Except.ok.inj same, List.map_cons, areRows, isRow]
          refine ⟨rfl, List.forall_mem_cons.mpr ⟨⟨fun absent => ?_, fun containerId same => ?_⟩,
            areBacked⟩⟩
          · obtain ⟨reply, rfl, missing⟩ := isAbsent absent
            exact ⟨reply, isRow ▸ asked, isRow ▸ missing⟩
          · obtain ⟨reply, rfl, found⟩ := isFound containerId same
            exact ⟨reply, isRow ▸ asked, isRow ▸ found⟩

/-- One row of the query is the only launch that the journal has. -/
theorem launchIntents_of_select {events : List ContainerEvent} {row : ContainerEvent}
    (selected : (selectIntents events project runId containerName 3).take 2 = [row]) :
    launchIntents events project runId containerName = [row] := by
  rw [selectIntents, List.take_take] at selected
  have sorted := List.mergeSort_perm (launchIntents events project runId containerName)
    fun left right => decide (right.sequence ≤ left.sequence)
  have single : ((launchIntents events project runId containerName).mergeSort fun left right =>
      decide (right.sequence ≤ left.sequence)) = [row] := by
    have count := congrArg List.length selected
    rw [List.length_take, List.length_singleton] at count
    rw [← selected, List.take_of_length_le (by omega)]
  rw [single] at sorted
  exact List.perm_singleton.mp sorted.symm

/-- The end of the body: the lock is held, and a report that is ready is right. -/
def EndsLocked (python : Python Double) (containerName : Text) (history : History)
    (result : Except (Option Text × Raised) Report) : Prop :=
  Held history ∧ forall report, result = .ok report -> report.status = .ready ->
    ConfirmedAbsent python containerName history

theorem removeContainer_holds {containerId : Text} {before : History} (quiet : Quiet before)
    (proven : Proven python project runId containerName containerId before) :
    (removeContainer python containerId).Holds (Guarded python project runId containerName)
      (EndsLocked python containerName) before := by
  refine ⟨⟨quiet.noRemoval, quiet.held, proven⟩, fun answer => ?_⟩
  have held := quiet.held.append
    (Request.noConfusion : Request.remove containerId ≠ .unlock) answer
  cases answer with
  | error raised => exact ⟨held, fun report same => nomatch same⟩
  | ok removed =>
      dsimp only
      by_cases failed : removed.process.returncode ≠ 0
      · rw [if_pos failed]
        refine ⟨held, fun report same isReady => ?_⟩
        rw [← Except.ok.inj same] at isReady
        nomatch isReady
      · rw [if_neg failed]
        refine ⟨trivial, fun answer => ?_⟩
        have held := held.append (Request.noConfusion : Request.confirm containerId ≠ .unlock) answer
        cases answer with
        | error raised => exact ⟨held, fun report same => nomatch same⟩
        | ok confirmed =>
            dsimp only
            by_cases unconfirmed : confirmed.process.returncode = 0 ∨
                python.lower (stripPoints confirmed.process.stderr) ∉ missing containerId
            · rw [if_pos unconfirmed]
              refine ⟨held, fun report same isReady => ?_⟩
              rw [← Except.ok.inj same] at isReady
              nomatch isReady
            · rw [if_neg unconfirmed]
              obtain ⟨notZero, isMissing⟩ := not_or.mp unconfirmed
              refine ⟨held, fun _ _ _ => .inr ⟨containerId, before, removed, confirmed, [], ?_,
                not_not.mp failed, notZero, .inl (not_not.mp isMissing)⟩⟩
              exact List.append_assoc _ _ _

theorem cleanupObserved_holds {item : Observed Double} {before : History} (quiet : Quiet before)
    (journal : Exists fun reply => (Request.journal, .ok reply) ∈ before ∧
      launchIntents reply.events project runId containerName = [item.row])
    (backed : Backed python project before item) :
    (cleanupObserved python item).Holds (Guarded python project runId containerName)
      (EndsLocked python containerName) before := by
  obtain ⟨reply, isReply, launched⟩ := journal
  have isName : item.row.containerName = containerName := by
    have member : item.row ∈ launchIntents reply.events project runId containerName :=
      launched ▸ List.mem_cons_self
    exact (of_decide_eq_true (List.mem_filter.mp member).2).2.2.2
  have refusal : forall reason, EndsLocked python containerName before (.ok (refused reason)) := by
    refine fun reason => ⟨quiet.held, fun report same isReady => ?_⟩
    rw [← Except.ok.inj same] at isReady
    nomatch isReady
  rw [cleanupObserved]
  by_cases absent : item.observation = text "absent"
  · rw [if_pos absent]
    exact ⟨quiet.held, fun _ _ _ => .inl (isName ▸ backed.absent absent)⟩
  · rw [if_neg absent]
    by_cases other : item.observation ∉ removableStates
    · rw [if_pos other]
      exact refusal _
    · rw [if_neg other]
      cases isId : item.containerId with
      | none => exact refusal _
      | some value =>
          cases value with
          | string containerId =>
              dsimp only
              by_cases immutable : isHex 64 containerId = true
              · rw [if_pos immutable]
                obtain ⟨inspection, asked, found⟩ := backed.found _ isId
                exact removeContainer_holds quiet ⟨immutable, reply, item.row, inspection, isReply,
                  launched, isName ▸ asked, found⟩
              · rw [if_neg immutable]
                exact refusal _
          | _ => exact refusal _

theorem cleanupLocked_holds {before : History} (quiet : Quiet before) :
    (cleanupLocked python project runId containerName).Holds
      (Guarded python project runId containerName) (EndsLocked python containerName) before := by
  refine Dialogue.Holds.recover (Dialogue.holds_reject_bind (fun _ => ?_) fun _ =>
    ⟨quiet.held, fun report same => nomatch same⟩)
  have later : forall answer, Quiet (before ++ [(.journal, answer)]) :=
    quiet.append Request.noConfusion fun _ => Request.noConfusion
  refine Dialogue.holds_query_bind trivial (fun reply => ?_) fun raised =>
    ⟨(later _).held, fun report same => nomatch same⟩
  refine Dialogue.Holds.bind ((inspectRows_holds _ (later (.ok reply))).mono
    fun history result ends => ?_)
  obtain ⟨grown, isQuiet, observed⟩ := ends
  cases result with
  | error raised => exact ⟨isQuiet.held, fun report same => nomatch same⟩
  | ok items =>
      have refusal : forall reason, EndsLocked python containerName history (.ok (refused reason)) := by
        refine fun reason => ⟨isQuiet.held, fun report same isReady => ?_⟩
        rw [← Except.ok.inj same] at isReady
        nomatch isReady
      obtain ⟨areRows, backed⟩ := observed items rfl
      rcases items with _ | ⟨item, _ | ⟨second, rest⟩⟩
      · exact refusal _
      · change (cleanupInspected python (.ok ([item], decide _))).Holds _ _ history
        cases decide (2 < (selectIntents reply.events project runId containerName 3).length) with
        | true => exact refusal _
        | false =>
            exact cleanupObserved_holds isQuiet ⟨reply, grown (List.mem_append_right _
              List.mem_cons_self), launchIntents_of_select areRows.symm⟩
                (backed item List.mem_cons_self)
      · exact refusal _

theorem ConfirmedAbsent.append {history : History}
    (confirmed : ConfirmedAbsent python containerName history) (exchange : Request × Answer) :
    ConfirmedAbsent python containerName (history ++ [exchange]) := by
  rcases confirmed with ⟨inspection, asked, missing⟩ |
    ⟨containerId, earlier, removed, confirmation, later, rfl, facts⟩
  · exact .inl ⟨inspection, List.mem_append_left _ asked, missing⟩
  · exact .inr ⟨containerId, earlier, removed, confirmation, later ++ [exchange],
      List.append_assoc _ _ _, facts⟩

/-- A report that is ready is right. -/
def ReadyConfirmed (python : Python Double) (containerName : Text) (history : History)
    (result : Except Raised Report) : Prop :=
  forall report, result = .ok report -> report.status = .ready ->
    ConfirmedAbsent python containerName history

/-- The `except` clauses never report that a container is absent. -/
theorem handle_holds (containerId : Option Text) (raised : Raised) (history : History) :
    (handle containerId raised).Holds (Guarded python project runId containerName)
      (ReadyConfirmed python containerName) history := by
  rw [handle]
  by_cases busy : raised.kind = .runnerBusy
  · rw [if_pos busy]
    intro report same isReady
    rw [← Except.ok.inj same] at isReady
    nomatch isReady
  · rw [if_neg busy]
    by_cases caught : raised.kind ∈ [Kind.osError, .timeoutExpired, .valueError]
    · rw [if_pos caught]
      intro report same isReady
      rw [← Except.ok.inj same] at isReady
      nomatch isReady
    · rw [if_neg caught]
      intro report same
      nomatch same

theorem unlockRunner_holds {history : History} {result : Except (Option Text × Raised) Report}
    (ends : EndsLocked python containerName history result) :
    (unlockRunner result).Holds (Guarded python project runId containerName)
      (ReadyConfirmed python containerName) history := by
  refine ⟨trivial, fun answer => ?_⟩
  cases answer with
  | ok reply =>
      cases result with
      | ok report =>
          intro other same isReady
          rw [← Except.ok.inj same] at isReady
          exact (ends.2 report rfl isReady).append _
      | error problem => exact handle_holds _ _ _
  | error raised =>
      cases result with
      | ok report => exact handle_holds _ _ _
      | error problem => exact handle_holds _ _ _

/-- The cleanup from its start. -/
theorem cleanupContainer_holds :
    (cleanupContainer python project runId containerName).Holds
      (Guarded python project runId containerName) (ReadyConfirmed python containerName) [] := by
  rw [cleanupContainer]
  by_cases unscoped : isScoped project runId containerName = false
  · rw [if_pos unscoped]
    exact fun report same => nomatch same
  · rw [if_neg unscoped]
    refine ⟨trivial, fun answer => ?_⟩
    cases answer with
    | error raised => exact handle_holds _ _ _
    | ok reply =>
        have quiet : Quiet [(.lock, .ok reply)] := {
          held := ⟨[], reply, [], rfl, fun _ => List.not_mem_nil⟩
          noRemoval := fun other answer member =>
            Request.noConfusion (Prod.mk.inj (List.mem_singleton.mp member)).1
        }
        exact Dialogue.Holds.recover ((cleanupLocked_holds quiet).mono
          fun history result ends => unlockRunner_holds ends)

end Runs

/-! ## Runs of the cleanup -/

/-- What a run of the cleanup did, by what was answered. -/
def cleanupRun (python : Python Double) (project runId containerName : Text)
    (answers : List Answer) : Dialogue.Talk Request Answer Raised Report :=
  (cleanupContainer python project runId containerName).run answers

end ContainerCleanup
end Pipeline
end LakehouseOps
