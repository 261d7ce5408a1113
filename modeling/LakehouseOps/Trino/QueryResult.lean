import LakehouseOps.Library.Dialogue
import LakehouseOps.Library.Fallible
import LakehouseOps.Library.Truthiness
import LakehouseOps.Library.Url

/-!
# The result of a query

The client posts a statement and follows the links of the coordinator, page by page. It
returns all rows of a query that has finished, or it raises.
-/

namespace LakehouseOps
namespace Trino
namespace QueryResult

open Library Library.Document Library.Dialogue

variable {Double Seconds Problem : Type}

/-! ## The environment -/

inductive Request
  /-- `monotonic()` -/
  | monotonic
  | post (url content : Text)
  | get (url : Text)
  | delete (url : Text)

/-- A response; its body is there where it is JSON. -/
structure Response (Double : Type) where
  statusCode : Int
  json : Option (Document Double)

/-- A time, or a response. -/
structure Reply (Double Seconds : Type) where
  seconds : Seconds
  response : Response Double

abbrev Answer (Double Seconds Problem : Type) := Except Problem (Reply Double Seconds)

abbrev History (Double Seconds Problem : Type) :=
  Exchanges Request (Answer Double Seconds Problem)

inductive QueryError (Problem : Type)
  | raised (problem : Problem)
  /-- `TrinoProtocolError` -/
  | protocol (message : Text)
  /-- `TrinoQueryError` -/
  | query (message : Text)
  /-- `TrinoQueryTimeoutError` -/
  | timeout (queryId : Option Text) (cancellation : Text)
  /-- `TrinoPageLimitError` -/
  | pageLimit (queryId cancellation : Text)
  /-- An error of Python about a value of another type, or without a key. -/
  | builtin

abbrev Step (Double Seconds Problem Value : Type) :=
  Dialogue Request (Answer Double Seconds Problem) (QueryError Problem) Value

/-- `TrinoClient`; its server was split from a URL. -/
structure TrinoClient (Double Seconds Problem : Type) where
  server : SplitUrl
  validNetloc : Text -> Bool
  isServer : SplitUrl.Parts validNetloc server
  isWeb : server.scheme ∈ [text "http", text "https"]
  isLocated : server.netloc ≠ []
  queryTimeout : Option Seconds
  isTimeout : Problem -> Bool
  isHttpError : Problem -> Bool
  isZero : Double -> Bool
  str : Document Double -> Text

/-- A page of the coordinator. -/
abbrev Page (Double : Type) := List (Text × Document Double)

/-- A row, by the names of its columns. -/
abbrev Row (Double : Type) := List (Document Double × Document Double)

/-! ## Pages -/

def isSuccess (response : Response Double) : Bool :=
  200 ≤ response.statusCode ∧ response.statusCode ≤ 299

def printInt (number : Int) : Text :=
  text (toString number)

/-- `_payload` -/
def payload (response : Response Double) : Except (QueryError Problem) (Page Double) :=
  if isSuccess response = false then
    .error (.protocol (text "Trino returned HTTP " ++ printInt response.statusCode))
  else
    match response.json with
    | none => .error (.protocol (text "Trino returned invalid JSON"))
    | some (.object page) => .ok page
    | some _ => .error (.protocol (text "Trino response must be a JSON object"))

/-- The id of a page, which is that of the pages before. -/
def pageId (queryId : Option Text) (page : Page Double) : Except (QueryError Problem) Text :=
  match textField page (text "id") with
  | none => .error (.protocol (text "Trino response has no query ID"))
  | some currentId =>
      if queryId.all (fun queryId => currentId = queryId) = true then .ok currentId
      else .error (.protocol (text "Trino query ID changed between result pages"))

/-- `_coordinator_uri` -/
def coordinatorUri (client : TrinoClient Double Seconds Problem) (nextUri : Text) :
    Except (QueryError Problem) Text :=
  match SplitUrl.urlsplit client.validNetloc nextUri with
  | none => .error .builtin
  | some parsed =>
      if parsed.scheme ∉ [text "http", text "https"] ∨ parsed.netloc = [] then
        .error (.protocol (text "Trino nextUri must be an absolute HTTP(S) URL"))
      else if (text "/v1/statement/").isPrefixOf parsed.path = false then
        .error (.protocol (text "Trino nextUri has an unexpected path"))
      else .ok (SplitUrl.urlunsplit {
        scheme := client.server.scheme
        netloc := client.server.netloc
        path := parsed.path
        query := parsed.query
        fragment := [] })

/-- The link of a page, on the coordinator. -/
def nextLink (client : TrinoClient Double Seconds Problem) (page : Page Double) :
    Except (QueryError Problem) (Option Text) :=
  match page.lookup (text "nextUri") with
  | none => .ok none
  | some nextUri =>
      if truthy client.isZero nextUri = false then .ok none
      else
        match nextUri with
        | .string uri => (coordinatorUri client uri).map some
        | _ => .error .builtin

/-- `error.get(key, default)` in a formatted text -/
def errorField (client : TrinoClient Double Seconds Problem) (error : Page Double)
    (key missing : String) : Text :=
  ((error.lookup (text key)).map client.str).getD (text missing)

/-- The error of a page. -/
def checkError (client : TrinoClient Double Seconds Problem) (page : Page Double) :
    Except (QueryError Problem) Unit :=
  match page.lookup (text "error") with
  | none => .ok ()
  | some error =>
      if truthy client.isZero error = false then .ok ()
      else
        match error with
        | .object error => .error (.query (errorField client error "errorName" "TRINO_QUERY_ERROR" ++
            text ": " ++ errorField client error "message" "query failed without a message"))
        | _ => .error .builtin

/-- What iteration over a value yields. -/
def itemsOf : Document Double -> Option (List (Document Double))
  | .array values => some values
  | .string points => some (points.map fun point => .string [point])
  | .object entries => some (entries.map fun entry => .string entry.1)
  | _ => none

/-- `column["name"]` -/
def columnName : Document Double -> Option (Document Double)
  | .object column => column.lookup (text "name")
  | _ => none

/-- The columns after a page. -/
def readColumns (columns : Option (List (Document Double))) (page : Page Double) :
    Except (QueryError Problem) (Option (List (Document Double))) :=
  match page.lookup (text "columns") with
  | none => .ok columns
  | some announced =>
      match (itemsOf announced).bind fun announced => announced.mapM columnName with
      | none => .error .builtin
      | some names => .ok (some names)

/-- Whether a value can be a key. -/
def isHashable : Document Double -> Bool
  | .array _ | .object _ => false
  | _ => true

/-- `dict(zip(columns, values, strict=True))`, of a row of the width of the columns -/
def readRow (columns : List (Document Double)) (values : Document Double) :
    Except (QueryError Problem) (Row Double) :=
  match itemsOf values with
  | none => .error .builtin
  | some values =>
      if values.length ≠ columns.length then
        .error (.protocol (text "Trino row width does not match columns"))
      else if columns.all isHashable = false then .error .builtin
      else .ok (columns.zip values)

/-- The rows of a page. -/
def readRows (client : TrinoClient Double Seconds Problem)
    (columns : Option (List (Document Double))) (page : Page Double) :
    Except (QueryError Problem) (List (Row Double)) :=
  match page.lookup (text "data") with
  | none => .ok []
  | some data =>
      if truthy client.isZero data = false then .ok []
      else
        match columns, itemsOf data with
        | none, _ => .error (.protocol (text "Trino returned data before column metadata"))
        | some _, none => .error .builtin
        | some columns, some data => data.mapM (readRow columns)

/-! ## Statistics -/

structure TrinoQueryStats where
  state : Text
  elapsedTimeMs : Int
  wallTimeMs : Int
  cpuTimeMs : Int
  processedRows : Int
  processedBytes : Int
  physicalInputBytes : Int
  peakMemoryBytes : Int
  spilledBytes : Int

/-- `_non_negative_integer` -/
def nonNegativeInteger (value : Page Double) (key : String) : Except (QueryError Problem) Int :=
  match value.lookup (text key) with
  | some (.int raw) =>
      if raw < 0 then
        .error (.protocol (text ("Trino query statistic " ++ key ++ " must be non-negative")))
      else .ok raw
  | _ => .error (.protocol (text ("Trino query statistic " ++ key ++ " must be non-negative")))

def isFinished : Option (Document Double) -> Bool
  | some (.string state) => state = text "FINISHED"
  | _ => false

/-- `_query_stats`, with the document that it reads -/
def queryStats (client : TrinoClient Double Seconds Problem) :
    Option (Document Double) -> Except (QueryError Problem) (TrinoQueryStats × Page Double)
  | some (.object value) => do
      let state := value.lookup (text "state")
      Fallible.reject (isFinished state = false)
        (.protocol (text "Trino final query state is not FINISHED: " ++
          (state.map client.str).getD (text "None")))
      let elapsedTimeMs <- nonNegativeInteger value "elapsedTimeMillis"
      let wallTimeMs <- nonNegativeInteger value "wallTimeMillis"
      let cpuTimeMs <- nonNegativeInteger value "cpuTimeMillis"
      let processedRows <- nonNegativeInteger value "processedRows"
      let processedBytes <- nonNegativeInteger value "processedBytes"
      let physicalInputBytes <- nonNegativeInteger value "physicalInputBytes"
      let peakMemoryBytes <- nonNegativeInteger value "peakMemoryBytes"
      let spilledBytes <- nonNegativeInteger value "spilledBytes"
      return ({
        state := text "FINISHED"
        elapsedTimeMs, wallTimeMs, cpuTimeMs, processedRows, processedBytes, physicalInputBytes,
        peakMemoryBytes, spilledBytes }, value)
  | _ => .error (.protocol (text "Trino final response has no query statistics"))

/-! ## The loop over the pages -/

structure TrinoQueryResult (Double : Type) where
  queryId : Text
  rows : List (Row Double)
  stats : TrinoQueryStats

/-- The variables of the loop. -/
structure PageState (Double : Type) where
  queryId : Option Text
  columns : Option (List (Document Double))
  rows : List (Row Double)

def startState : PageState Double where
  queryId := none
  columns := none
  rows := []

/-- `_cancel_query` -/
def cancelQuery (client : TrinoClient Double Seconds Problem) :
    Option Text -> Step Double Seconds Problem Text
  | none => .done (text "not_available")
  | some uri => .ask (.delete uri) fun
      | .ok reply =>
          if isSuccess reply.response = true then .done (text "accepted")
          else .done (text "http_" ++ printInt reply.response.statusCode)
      | .error problem =>
          if client.isHttpError problem = true then .done (text "transport_failed")
          else .fail (.raised problem)

/-- `_query_timeout_error` -/
def queryTimeoutError {Value : Type} (client : TrinoClient Double Seconds Problem)
    (queryId cancellationUri : Option Text) : Step Double Seconds Problem Value := do
  let cancellation <- cancelQuery client cancellationUri
  .fail (.timeout queryId cancellation)

/-- Raise when the time is over; without a deadline no time is read. -/
def checkDeadline (client : TrinoClient Double Seconds Problem)
    (isOver : Option (Seconds -> Bool)) (queryId cancellationUri : Option Text) :
    Step Double Seconds Problem Unit :=
  match isOver with
  | none => .done ()
  | some isOver => .ask .monotonic fun
      | .error problem => .fail (.raised problem)
      | .ok now =>
          if isOver now.seconds = true then queryTimeoutError client queryId cancellationUri
          else .done ()

/-- `self._server` -/
def serverUrl (client : TrinoClient Double Seconds Problem) : Text :=
  SplitUrl.urlunsplit { client.server with
    query := []
    fragment := [] }

section Time

variable [Add Seconds] [Sub Seconds] [Zero Seconds] [LE Seconds] [DecidableLE Seconds]

/-- The inner function `request`; a timeout of a query with a deadline cancels it. -/
def request (client : TrinoClient Double Seconds Problem) (deadline : Option Seconds)
    (queryId cancellationUri : Option Text) (asked : Request) :
    Step Double Seconds Problem (Response Double) := do
  checkDeadline client (deadline.map fun deadline now => deadline - now ≤ 0) queryId
    cancellationUri
  .ask asked fun
    | .ok reply => .done reply.response
    | .error problem =>
        if client.isTimeout problem = true ∧ deadline.isSome = true then
          queryTimeoutError client queryId cancellationUri
        else .fail (.raised problem)

/-- What a page says: the id of the query, where to go on, and the variables after it. -/
structure PageTurn (Double : Type) where
  queryId : Text
  cancellationUri : Option Text
  state : PageState Double

/-- The part of a turn of the loop up to the end of the data. -/
def readPage (client : TrinoClient Double Seconds Problem) (deadline : Option Seconds)
    (state : PageState Double) (page : Page Double) :
    Step Double Seconds Problem (PageTurn Double) := do
  let queryId <- attempt (pageId state.queryId page)
  let cancellationUri <- attempt (nextLink client page)
  checkDeadline client (deadline.map fun deadline now => deadline ≤ now) (some queryId)
    cancellationUri
  attempt (checkError client page)
  let columns <- attempt (readColumns state.columns page)
  let rows <- attempt (readRows client columns page)
  return {
    queryId
    cancellationUri
    state := {
      queryId := some queryId
      columns
      rows := state.rows ++ rows } }

/-- The end of the loop, at a page without a link. -/
def finishQuery (client : TrinoClient Double Seconds Problem) (page : Page Double)
    (turn : PageTurn Double) :
    Step Double Seconds Problem (TrinoQueryResult Double × Page Double) := do
  let (stats, document) <- attempt (queryStats client (page.lookup (text "stats")))
  return ({ queryId := turn.queryId, rows := turn.state.rows, stats }, document)

/-- One turn of the loop, with what it does about a link. -/
def readTurn (client : TrinoClient Double Seconds Problem) (deadline : Option Seconds)
    (state : PageState Double) (response : Response Double)
    (goOn : PageTurn Double -> Text ->
      Step Double Seconds Problem (TrinoQueryResult Double × Page Double)) :
    Step Double Seconds Problem (TrinoQueryResult Double × Page Double) := do
  let page <- attempt (payload response)
  let turn <- readPage client deadline state page
  match turn.cancellationUri with
  | none => finishQuery client page turn
  | some uri => goOn turn uri

/-- The loop, by the number of pages that may follow. -/
def readPages (client : TrinoClient Double Seconds Problem) (deadline : Option Seconds) :
    Nat -> PageState Double -> Response Double ->
      Step Double Seconds Problem (TrinoQueryResult Double × Page Double)
  | 0, state, response =>
      readTurn client deadline state response fun turn uri => do
        let cancellation <- cancelQuery client (some uri)
        .fail (.pageLimit turn.queryId cancellation)
  | left + 1, state, response =>
      readTurn client deadline state response fun turn uri => do
        let response <- request client deadline (some turn.queryId) (some uri) (.get uri)
        readPages client deadline left turn.state response

/-- `deadline`, from the start of the query -/
def startDeadline (client : TrinoClient Double Seconds Problem) :
    Step Double Seconds Problem (Option Seconds) :=
  match client.queryTimeout with
  | none => .done none
  | some queryTimeout => .ask .monotonic fun
      | .error problem => .fail (.raised problem)
      | .ok now => .done (some (now.seconds + queryTimeout))

/-- `_query_result` -/
def queryResult (client : TrinoClient Double Seconds Problem) (sql : Text) :
    Step Double Seconds Problem (TrinoQueryResult Double × Page Double) := do
  let deadline <- startDeadline client
  let response <- request client deadline none none
    (.post (serverUrl client ++ text "/v1/statement") sql)
  readPages client deadline 999 startState response

end Time

/-! ## What is asked -/

/-- A URL of the statements of the configured server. -/
def OnOrigin (client : TrinoClient Double Seconds Problem) (url : Text) : Prop :=
  Exists fun path => Exists fun query => text "/v1/statement/" <+: path ∧
    SplitUrl.urlsplit client.validNetloc url = some {
      scheme := client.server.scheme
      netloc := client.server.netloc
      path
      query
      fragment := [] }

/-- What the client may ask. -/
def Asked (client : TrinoClient Double Seconds Problem) (sql : Text) : Request -> Prop
  | .monotonic => True
  | .post url content => url = serverUrl client ++ text "/v1/statement" ∧ content = sql
  | .get url => OnOrigin client url
  | .delete url => OnOrigin client url

/-- What brings no page. -/
def Silent (client : TrinoClient Double Seconds Problem) : Request -> Prop
  | .monotonic => True
  | .delete url => OnOrigin client url
  | _ => False

/-- The pages that were answered. -/
def page? : Request × Answer Double Seconds Problem -> Option (Page Double)
  | (.post _ _, .ok reply) => (payload reply.response : Except (QueryError Problem) _).toOption
  | (.get _, .ok reply) => (payload reply.response : Except (QueryError Problem) _).toOption
  | _ => none

def pagesOf (history : History Double Seconds Problem) : List (Page Double) :=
  history.filterMap page?

variable {client : TrinoClient Double Seconds Problem} {sql : Text}

/-- A link that passes the check is on the configured server. -/
theorem onOrigin_of_coordinatorUri {nextUri uri : Text}
    (isUri : (coordinatorUri client nextUri : Except (QueryError Problem) Text) = .ok uri) :
    OnOrigin client uri := by
  unfold coordinatorUri at isUri
  cases isParsed : SplitUrl.urlsplit client.validNetloc nextUri with
  | none =>
      rw [isParsed] at isUri
      nomatch isUri
  | some parsed =>
      rw [isParsed] at isUri
      dsimp only at isUri
      split at isUri
      · nomatch isUri
      · split at isUri
        · nomatch isUri
        · next isPath =>
            rw [← Except.ok.inj isUri]
            have starts : text "/v1/statement/" <+: parsed.path :=
              List.isPrefixOf_iff_prefix.mp (Bool.not_eq_false _ ▸ isPath)
            obtain ⟨rest, whole⟩ := starts
            have parts := SplitUrl.parts_of_urlsplit isParsed
            have absolute : parsed.path = char '/' :: (text "v1/statement/" ++ rest) :=
              whole.symm
            refine ⟨parsed.path, parsed.query, ⟨rest, whole⟩,
              SplitUrl.urlsplit_urlunsplit ?_ client.isWeb client.isLocated absolute rfl⟩
            exact {
              netloc := client.isServer.netloc
              path := parts.path
              query := parts.query
              netlocPoints := client.isServer.netlocPoints
              valid := client.isServer.valid
              pathPoints := parts.pathPoints
              queryPoints := parts.queryPoints }

theorem onOrigin_of_nextLink {page : Page Double} {link : Option Text}
    (isLink : (nextLink client page : Except (QueryError Problem) _) = .ok link) :
    forall uri, link = some uri -> OnOrigin client uri := by
  rintro uri rfl
  unfold nextLink at isLink
  cases isNext : page.lookup (text "nextUri") with
  | none =>
      rw [isNext] at isLink
      nomatch isLink
  | some nextUri =>
      rw [isNext] at isLink
      dsimp only at isLink
      split at isLink
      · nomatch isLink
      · cases nextUri with
        | string points =>
            dsimp only at isLink
            cases isUri : (coordinatorUri client points : Except (QueryError Problem) Text) with
            | error problem =>
                rw [isUri] at isLink
                nomatch isLink
            | ok other =>
                rw [isUri] at isLink
                obtain rfl := Option.some.inj (Except.ok.inj isLink)
                exact onOrigin_of_coordinatorUri isUri
        | _ => nomatch isLink

theorem silent_cancelQuery {link : Option Text}
    (onOrigin : forall uri, link = some uri -> OnOrigin client uri) :
    (cancelQuery client link).Sends (Silent client) := by
  cases link with
  | none => trivial
  | some uri =>
      refine ⟨onOrigin uri rfl, fun answer => ?_⟩
      cases answer with
      | ok reply =>
          dsimp only
          split <;> trivial
      | error problem =>
          dsimp only
          split <;> trivial

theorem silent_timeout {Value : Type} {link queryId : Option Text}
    (onOrigin : forall uri, link = some uri -> OnOrigin client uri) :
    (queryTimeoutError client queryId link : Step Double Seconds Problem Value).Sends
      (Silent client) :=
  Sends.bind (silent_cancelQuery onOrigin) fun _ => trivial

theorem silent_checkDeadline {isOver : Option (Seconds -> Bool)} {link queryId : Option Text}
    (onOrigin : forall uri, link = some uri -> OnOrigin client uri) :
    (checkDeadline client isOver queryId link).Sends (Silent client) := by
  cases isOver with
  | none => trivial
  | some isOver =>
      refine ⟨trivial, fun answer => ?_⟩
      cases answer with
      | error problem => trivial
      | ok now =>
          dsimp only
          split
          · exact silent_timeout onOrigin
          · trivial

/-- What is silent is asked rightly and leaves the pages as they are. -/
theorem holds_of_silent {Value : Type} {part : Step Double Seconds Problem Value}
    (silent : part.Sends (Silent client)) (before : History Double Seconds Problem) :
    part.Holds (fun _ => Asked client sql) (fun history _ => pagesOf history = pagesOf before)
      before := by
  refine silent.holds ?_ ?_ rfl
  · intro _ asked _ isSilent
    cases asked with
    | monotonic => trivial
    | delete url => exact isSilent
    | _ => exact isSilent.elim
  · intro history asked answer same isSilent
    rw [pagesOf, List.filterMap_append, ← pagesOf, same]
    cases asked with
    | monotonic => exact List.append_nil _
    | delete url => exact List.append_nil _
    | _ => exact isSilent.elim

/-! ## Whole results -/

/-- The columns after a page, which may announce them again. -/
def columnsAfter (columns : Option (List (Document Double))) (page : Page Double) :
    Option (List (Document Double)) :=
  match page.lookup (text "columns") with
  | none => columns
  | some announced => (itemsOf announced).bind fun announced => announced.mapM columnName

/-- The values of the rows of a page. -/
def dataOf (client : TrinoClient Double Seconds Problem) (page : Page Double) :
    List (List (Document Double)) :=
  if truthyField client.isZero page (text "data") = true then
    (((page.lookup (text "data")).bind itemsOf).getD []).map fun values =>
      (itemsOf values).getD []
  else []

/-- The rows of pages in order, each under the columns that were announced last. -/
def allRows (client : TrinoClient Double Seconds Problem) :
    Option (List (Document Double)) -> List (Page Double) -> List (Row Double)
  | _, [] => []
  | columns, page :: pages =>
      (dataOf client page).map (fun values => ((columnsAfter columns page).getD []).zip values) ++
        allRows client (columnsAfter columns page) pages

/-- Every row has a value for every column. -/
def AllWide (client : TrinoClient Double Seconds Problem) :
    Option (List (Document Double)) -> List (Page Double) -> Prop
  | _, [] => True
  | columns, page :: pages =>
      (forall values, values ∈ dataOf client page ->
        Exists fun names => columnsAfter columns page = some names ∧
          values.length = names.length) ∧
        AllWide client (columnsAfter columns page) pages

def hasLink (client : TrinoClient Double Seconds Problem) (page : Page Double) : Bool :=
  truthyField client.isZero page (text "nextUri")

def hasError (client : TrinoClient Double Seconds Problem) (page : Page Double) : Bool :=
  truthyField client.isZero page (text "error")

/-- A page of a query, without an error. -/
structure Accepted (client : TrinoClient Double Seconds Problem) (queryId : Text)
    (page : Page Double) : Prop where
  id : textField page (text "id") = some queryId
  error : hasError client page = false

/-- A result is that of all pages, of which the last one says that the query has finished. -/
structure Whole (client : TrinoClient Double Seconds Problem) (pages : List (Page Double))
    (result : TrinoQueryResult Double) : Prop where
  accepted : forall page, page ∈ pages -> Accepted client result.queryId page
  bounded : pages.length ≤ 1000
  linked : Exists fun earlier => Exists fun last => pages = earlier ++ [last] ∧
    (forall page, page ∈ earlier -> hasLink client page = true) ∧ hasLink client last = false ∧
    Exists fun stats => last.lookup (text "stats") = some (.object stats) ∧
      stats.lookup (text "state") = some (.string (text "FINISHED"))
  rows : result.rows = allRows client none pages
  wide : AllWide client none pages

theorem allRows_append (columns : Option (List (Document Double)))
    (earlier later : List (Page Double)) :
    allRows client columns (earlier ++ later) = allRows client columns earlier ++
      allRows client (earlier.foldl columnsAfter columns) later := by
  induction earlier generalizing columns with
  | nil => rfl
  | cons page earlier inductionHypothesis =>
      rw [List.cons_append, allRows, allRows, inductionHypothesis, List.append_assoc,
        List.foldl_cons]

theorem allWide_append (columns : Option (List (Document Double)))
    (earlier later : List (Page Double)) :
    AllWide client columns (earlier ++ later) ↔ AllWide client columns earlier ∧
      AllWide client (earlier.foldl columnsAfter columns) later := by
  induction earlier generalizing columns with
  | nil => exact ⟨fun wide => ⟨trivial, wide⟩, And.right⟩
  | cons page earlier inductionHypothesis =>
      rw [List.cons_append, AllWide, AllWide, inductionHypothesis, List.foldl_cons, and_assoc]

/-- What the loop has when it gets a response: the pages before it, with links. -/
structure ReadSoFar (client : TrinoClient Double Seconds Problem) (read : List (Page Double))
    (state : PageState Double) : Prop where
  ids : forall page, page ∈ read -> Exists fun queryId => state.queryId = some queryId ∧
    Accepted client queryId page
  links : forall page, page ∈ read -> hasLink client page = true
  columns : state.columns = read.foldl columnsAfter none
  rows : state.rows = allRows client none read
  wide : AllWide client none read

/-- What one turn of the loop makes of a page. -/
structure PageRead (client : TrinoClient Double Seconds Problem) (state : PageState Double)
    (page : Page Double) (turn : PageTurn Double) : Prop where
  same : forall before, state.queryId = some before -> before = turn.queryId
  accepted : Accepted client turn.queryId page
  linked : hasLink client page = turn.cancellationUri.isSome
  onOrigin : forall uri, turn.cancellationUri = some uri -> OnOrigin client uri
  queryId : turn.state.queryId = some turn.queryId
  columns : turn.state.columns = columnsAfter state.columns page
  rows : turn.state.rows = state.rows ++ (dataOf client page).map fun values =>
    ((columnsAfter state.columns page).getD []).zip values
  wide : forall values, values ∈ dataOf client page ->
    Exists fun names => columnsAfter state.columns page = some names ∧
      values.length = names.length

theorem ReadSoFar.next {read : List (Page Double)} {state : PageState Double}
    {page : Page Double} {turn : PageTurn Double} (soFar : ReadSoFar client read state)
    (turned : PageRead client state page turn) (isLinked : turn.cancellationUri.isSome = true) :
    ReadSoFar client (read ++ [page]) turn.state := by
  have later : AllWide client (read.foldl columnsAfter none) [page] :=
    ⟨soFar.columns ▸ turned.wide, trivial⟩
  constructor
  · intro other member
    refine ⟨turn.queryId, turned.queryId, ?_⟩
    rcases List.mem_append.mp member with before | new
    · obtain ⟨earlier, isEarlier, accepted⟩ := soFar.ids other before
      exact turned.same earlier isEarlier ▸ accepted
    · exact List.mem_singleton.mp new ▸ turned.accepted
  · intro other member
    rcases List.mem_append.mp member with before | new
    · exact soFar.links other before
    · rw [List.mem_singleton.mp new]
      exact turned.linked.trans isLinked
  · rw [turned.columns, soFar.columns, List.foldl_concat]
  · rw [turned.rows, soFar.rows, soFar.columns, allRows_append]
    refine congrArg _ ?_
    rw [allRows, allRows, List.append_nil]
  · exact (allWide_append none read [page]).mpr ⟨soFar.wide, later⟩

theorem nextLink_linked {page : Page Double} {link : Option Text}
    (isLink : (nextLink client page : Except (QueryError Problem) _) = .ok link) :
    hasLink client page = link.isSome := by
  unfold nextLink at isLink
  unfold hasLink truthyField
  cases isNext : page.lookup (text "nextUri") with
  | none =>
      rw [isNext] at isLink
      rw [← Except.ok.inj isLink]
      rfl
  | some nextUri =>
      rw [isNext] at isLink
      dsimp only at isLink ⊢
      split at isLink
      · next falsy =>
          rw [← Except.ok.inj isLink]
          exact falsy
      · next isTruthy =>
          rw [Bool.not_eq_false] at isTruthy
          cases nextUri with
          | string points =>
              dsimp only at isLink
              cases isUri : (coordinatorUri client points : Except (QueryError Problem) Text) with
              | error problem =>
                  rw [isUri] at isLink
                  nomatch isLink
              | ok other =>
                  rw [isUri] at isLink
                  rw [← Except.ok.inj isLink]
                  exact isTruthy
          | _ => nomatch isLink

theorem checkError_passed {page : Page Double}
    (passed : (checkError client page : Except (QueryError Problem) Unit) = .ok ()) :
    hasError client page = false := by
  unfold checkError at passed
  unfold hasError truthyField
  cases isError : page.lookup (text "error") with
  | none => rfl
  | some error =>
      rw [isError] at passed
      dsimp only at passed ⊢
      split at passed
      · next falsy => exact falsy
      · cases error <;> nomatch passed

theorem pageId_ok {before : Option Text} {page : Page Double} {queryId : Text}
    (isId : (pageId before page : Except (QueryError Problem) Text) = .ok queryId) :
    textField page (text "id") = some queryId ∧
      forall earlier, before = some earlier -> earlier = queryId := by
  unfold pageId at isId
  cases isCurrent : textField page (text "id") with
  | none =>
      rw [isCurrent] at isId
      nomatch isId
  | some currentId =>
      rw [isCurrent] at isId
      dsimp only at isId
      split at isId
      · next same =>
          obtain rfl := Except.ok.inj isId
          refine ⟨rfl, ?_⟩
          rintro earlier rfl
          exact (of_decide_eq_true same).symm
      · nomatch isId

theorem readColumns_ok {columns after : Option (List (Document Double))} {page : Page Double}
    (isAfter : (readColumns columns page : Except (QueryError Problem) _) = .ok after) :
    after = columnsAfter columns page := by
  unfold readColumns at isAfter
  unfold columnsAfter
  cases isAnnounced : page.lookup (text "columns") with
  | none =>
      rw [isAnnounced] at isAfter
      exact (Except.ok.inj isAfter).symm
  | some announced =>
      rw [isAnnounced] at isAfter
      dsimp only at isAfter ⊢
      cases areNames : (itemsOf announced).bind fun announced => announced.mapM columnName with
      | none =>
          rw [areNames] at isAfter
          nomatch isAfter
      | some names =>
          rw [areNames] at isAfter
          exact (Except.ok.inj isAfter).symm

theorem readRow_ok {columns : List (Document Double)} {values : Document Double}
    {row : Row Double} (isRow : (readRow columns values : Except (QueryError Problem) _) = .ok row) :
    ((itemsOf values).getD []).length = columns.length ∧
      row = columns.zip ((itemsOf values).getD []) := by
  unfold readRow at isRow
  cases areItems : itemsOf values with
  | none =>
      rw [areItems] at isRow
      nomatch isRow
  | some items =>
      rw [areItems] at isRow
      dsimp only at isRow
      split at isRow
      · nomatch isRow
      · next same =>
          split at isRow
          · nomatch isRow
          · exact ⟨not_not.mp same, (Except.ok.inj isRow).symm⟩

theorem readRows_ok {columns : Option (List (Document Double))} {page : Page Double}
    {rows : List (Row Double)}
    (areRows : (readRows client columns page : Except (QueryError Problem) _) = .ok rows) :
    rows = (dataOf client page).map (fun values => (columns.getD []).zip values) ∧
      forall values, values ∈ dataOf client page ->
        Exists fun names => columns = some names ∧ values.length = names.length := by
  have none : dataOf client page = [] -> rows = [] ->
      rows = (dataOf client page).map (fun values => (columns.getD []).zip values) ∧
        forall values, values ∈ dataOf client page ->
          Exists fun names => columns = some names ∧ values.length = names.length := by
    intro empty noRows
    rw [empty, noRows]
    exact ⟨rfl, fun _ member => absurd member List.not_mem_nil⟩
  unfold readRows at areRows
  cases isData : page.lookup (text "data") with
  | none =>
      rw [isData] at areRows
      refine none ?_ (Except.ok.inj areRows).symm
      rw [dataOf, truthyField, isData]
      rfl
  | some data =>
      rw [isData] at areRows
      dsimp only at areRows
      split at areRows
      · next falsy =>
          refine none ?_ (Except.ok.inj areRows).symm
          rw [dataOf, truthyField, isData]
          exact if_neg (Bool.not_eq_true _ ▸ falsy)
      · next isTruthy =>
          rw [Bool.not_eq_false] at isTruthy
          have isDataOf : dataOf client page =
              ((itemsOf data).getD []).map fun values => (itemsOf values).getD [] := by
            rw [dataOf, truthyField, isData]
            exact if_pos isTruthy
          rw [isDataOf]
          cases columns with
          | none => nomatch areRows
          | some names =>
              cases areItems : itemsOf data with
              | none =>
                  rw [areItems] at areRows
                  nomatch areRows
              | some items =>
                  rw [areItems] at areRows
                  dsimp only [Option.getD_some] at areRows ⊢
                  constructor
                  · rw [List.map_map, Fallible.eq_filterMap_of_mapM_eq_ok
                      (fun values row isRow => congrArg some (readRow_ok isRow).2.symm) areRows]
                    exact congrFun List.filterMap_eq_map items
                  · intro values member
                    obtain ⟨item, isItem, rfl⟩ := List.mem_map.mp member
                    obtain ⟨row, isRow⟩ := Fallible.mapM_returns_iff.mp ⟨rows, areRows⟩ item isItem
                    exact ⟨names, rfl, (readRow_ok isRow).1⟩

theorem queryStats_ok {stats : Option (Document Double)}
    {result : TrinoQueryStats × Page Double}
    (areStats : (queryStats client stats : Except (QueryError Problem) _) = .ok result) :
    Exists fun document => stats = some (.object document) ∧
      document.lookup (text "state") = some (.string (text "FINISHED")) := by
  cases stats with
  | none => cases areStats
  | some stats =>
      cases stats with
      | object document =>
          simp only [queryStats, Fallible.bind_eq_ok_iff, Fallible.reject_eq_ok_iff] at areStats
          obtain ⟨_, finished, _⟩ := areStats
          refine ⟨document, rfl, ?_⟩
          rw [Bool.not_eq_false] at finished
          cases isState : document.lookup (text "state") with
          | none =>
              rw [isState] at finished
              exact absurd finished Bool.false_ne_true
          | some state =>
              rw [isState] at finished
              cases state with
              | string points => rw [of_decide_eq_true finished]
              | _ => exact absurd finished Bool.false_ne_true
      | _ => cases areStats

/-- A query that is out of time raises. -/
theorem timeout_holds {Value : Type} {queryId link : Option Text}
    (onOrigin : forall uri, link = some uri -> OnOrigin client uri)
    (before : History Double Seconds Problem) :
    (queryTimeoutError client queryId link : Step Double Seconds Problem Value).Holds
      (fun _ => Asked client sql) (fun _ outcome => Exists fun problem => outcome = .error problem)
      before := by
  refine Holds.bind (Holds.mono (holds_of_silent (silent_cancelQuery onOrigin) before)
    fun _ outcome _ => ?_)
  cases outcome with
  | ok cancellation => exact ⟨_, rfl⟩
  | error problem => exact ⟨_, rfl⟩

/-- The last page makes the result whole. -/
theorem whole_of_last {read : List (Page Double)} {state : PageState Double}
    {page : Page Double} {turn : PageTurn Double} {stats : TrinoQueryStats × Page Double}
    (soFar : ReadSoFar client read state) (few : read.length ≤ 999)
    (turned : PageRead client state page turn) (isLast : turn.cancellationUri = none)
    (areStats : (queryStats client (page.lookup (text "stats")) :
      Except (QueryError Problem) _) = .ok stats) :
    Whole client (read ++ [page])
      { queryId := turn.queryId, rows := turn.state.rows, stats := stats.1 } := by
  constructor
  · intro other member
    rcases List.mem_append.mp member with before | new
    · obtain ⟨earlier, isEarlier, accepted⟩ := soFar.ids other before
      exact turned.same earlier isEarlier ▸ accepted
    · exact List.mem_singleton.mp new ▸ turned.accepted
  · rw [List.length_append, List.length_singleton]
    exact Nat.succ_le_succ few
  · exact ⟨read, page, rfl, soFar.links, turned.linked.trans (isLast ▸ rfl),
      queryStats_ok areStats⟩
  · rw [turned.rows, soFar.rows, soFar.columns, allRows_append, allRows, allRows,
      List.append_nil]
  · exact (allWide_append none read [page]).mpr ⟨soFar.wide, soFar.columns ▸ turned.wide, trivial⟩

section Loop

variable [LE Seconds] [DecidableLE Seconds]

theorem readPage_holds (deadline : Option Seconds) (state : PageState Double)
    (page : Page Double) (before : History Double Seconds Problem) :
    (readPage client deadline state page).Holds (fun _ => Asked client sql)
      (fun history outcome => pagesOf history = pagesOf before ∧
        forall turn, outcome = .ok turn -> PageRead client state page turn) before := by
  refine holds_attempt_bind (fun queryId isId => ?_) fun _ _ => ⟨rfl, nofun⟩
  refine holds_attempt_bind (fun link isLink => ?_) fun _ _ => ⟨rfl, nofun⟩
  refine Holds.bind (Holds.mono (holds_of_silent
    (silent_checkDeadline (onOrigin_of_nextLink isLink)) before) fun history outcome same => ?_)
  cases outcome with
  | error problem => exact ⟨same, nofun⟩
  | ok checked =>
      refine holds_attempt_bind (fun passed isPassed => ?_) fun _ _ => ⟨same, nofun⟩
      refine holds_attempt_bind (fun columns areColumns => ?_) fun _ _ => ⟨same, nofun⟩
      refine holds_attempt_bind (fun rows areRows => ?_) fun _ _ => ⟨same, nofun⟩
      refine ⟨same, ?_⟩
      rintro _ ⟨⟩
      obtain ⟨id, sameId⟩ := pageId_ok isId
      obtain rfl := readColumns_ok areColumns
      obtain ⟨rowsOf, wide⟩ := readRows_ok areRows
      exact {
        same := sameId
        accepted := ⟨id, checkError_passed isPassed⟩
        linked := nextLink_linked isLink
        onOrigin := onOrigin_of_nextLink isLink
        queryId := rfl
        columns := rfl
        rows := congrArg (state.rows ++ ·) rowsOf
        wide }

/-- A turn of the loop: the end of it, or what it does about a link. -/
theorem readTurn_holds {deadline : Option Seconds} {state : PageState Double}
    {response : Response Double} {read : List (Page Double)}
    {before : History Double Seconds Problem} (soFar : ReadSoFar client read state)
    (few : read.length ≤ 999)
    (answered : pagesOf before = read ++
      (payload response : Except (QueryError Problem) _).toOption.toList)
    {goOn : PageTurn Double -> Text ->
      Step Double Seconds Problem (TrinoQueryResult Double × Page Double)}
    (goes : forall page turn uri history,
      PageRead client state page turn -> turn.cancellationUri = some uri ->
      pagesOf history = read ++ [page] ->
      (goOn turn uri).Holds (fun _ => Asked client sql)
        (fun history outcome => forall result, outcome = .ok result ->
          Whole client (pagesOf history) result.1) history) :
    (readTurn client deadline state response goOn).Holds (fun _ => Asked client sql)
      (fun history outcome => forall result, outcome = .ok result ->
        Whole client (pagesOf history) result.1) before := by
  refine holds_attempt_bind (fun page isPage => ?_) fun _ _ => nofun
  rw [isPage] at answered
  refine Holds.bind (Holds.mono (readPage_holds deadline state page before)
    fun history outcome ends => ?_)
  cases outcome with
  | error problem => exact nofun
  | ok turn =>
      have isRead : pagesOf history = read ++ [page] := ends.1.trans answered
      have turned := ends.2 turn rfl
      dsimp only
      cases isLink : turn.cancellationUri with
      | none =>
          refine holds_attempt_bind (fun stats areStats => ?_) fun _ _ => nofun
          rintro _ ⟨⟩
          exact isRead ▸ whole_of_last soFar few turned isLink areStats
      | some uri => exact goes page turn uri history turned isLink isRead

variable [Sub Seconds] [Zero Seconds]

theorem request_holds (deadline : Option Seconds) {link queryId : Option Text}
    (onOrigin : forall uri, link = some uri -> OnOrigin client uri) {asked : Request}
    (isAsked : Asked client sql asked) (before : History Double Seconds Problem)
    (brings : forall reply, page? (asked, (.ok reply : Answer Double Seconds Problem)) =
      (payload reply.response : Except (QueryError Problem) _).toOption) :
    (request client deadline queryId link asked).Holds (fun _ => Asked client sql)
      (fun history outcome => forall response, outcome = .ok response ->
        pagesOf history = pagesOf before ++
          (payload response : Except (QueryError Problem) _).toOption.toList) before := by
  refine Holds.bind (Holds.mono (holds_of_silent (silent_checkDeadline onOrigin) before)
    fun history outcome same => ?_)
  cases outcome with
  | error problem => exact nofun
  | ok checked =>
      refine ⟨isAsked, fun answer => ?_⟩
      cases answer with
      | ok reply =>
          rintro _ ⟨⟩
          rw [pagesOf, List.filterMap_append, ← pagesOf, same, List.filterMap_cons, brings,
            List.filterMap_nil]
          cases (payload reply.response : Except (QueryError Problem) _).toOption <;> rfl
      | error problem =>
          dsimp only
          split
          · refine Holds.mono (timeout_holds onOrigin _) fun _ outcome fails response returns => ?_
            obtain ⟨problem, isError⟩ := fails
            rw [isError] at returns
            nomatch returns
          · exact nofun

/-- The loop, from a response on. -/
theorem readPages_holds (deadline : Option Seconds) (left : Nat) {read : List (Page Double)}
    {state : PageState Double} {response : Response Double}
    {before : History Double Seconds Problem} (soFar : ReadSoFar client read state)
    (count : read.length + left = 999)
    (answered : pagesOf before = read ++
      (payload response : Except (QueryError Problem) _).toOption.toList) :
    (readPages client deadline left state response).Holds (fun _ => Asked client sql)
      (fun history outcome => forall result, outcome = .ok result ->
        Whole client (pagesOf history) result.1) before := by
  induction left generalizing read state response before with
  | zero =>
      refine readTurn_holds soFar (by omega) answered fun page turn uri history turned isLink _ => ?_
      refine Holds.bind (Holds.mono (holds_of_silent
        (silent_cancelQuery (isLink ▸ turned.onOrigin)) history) fun _ outcome _ => ?_)
      cases outcome with
      | ok cancellation => exact nofun
      | error problem => exact nofun
  | succ left inductionHypothesis =>
      refine readTurn_holds soFar (by omega) answered
        fun page turn uri history turned isLink isRead => ?_
      have isAsked : Asked client sql (.get uri) := turned.onOrigin uri isLink
      have onLink : forall other, some uri = some other -> OnOrigin client other :=
        isLink ▸ turned.onOrigin
      refine Holds.bind (Holds.mono (request_holds deadline onLink isAsked history fun _ => rfl)
        fun later outcome brings => ?_)
      cases outcome with
      | error problem => exact nofun
      | ok response =>
          refine inductionHypothesis (soFar.next turned (isLink ▸ rfl)) ?_ ?_
          · rw [List.length_append, List.length_singleton]
            omega
          · rw [brings response rfl, isRead]

/-! ## Every query -/

variable [Add Seconds]

/-- What a query asks and what it returns. -/
structure AllOrNothing (client : TrinoClient Double Seconds Problem) (sql : Text)
    (talk : Talk Request (Answer Double Seconds Problem) (QueryError Problem)
      (TrinoQueryResult Double × Page Double)) : Prop where
  /-- Everything that is asked goes to the configured server. -/
  asked : forall before asked, talk.Sent before asked -> Asked client sql asked
  /-- A result is whole. -/
  whole : forall result, talk.result = some (.ok result) ->
    Whole client (pagesOf talk.exchanges) result.1

theorem queryResult_holds : (queryResult client sql).Holds (fun _ => Asked client sql)
    (fun history outcome => forall result, outcome = .ok result ->
      Whole client (pagesOf history) result.1) [] := by
  have fresh : ReadSoFar client [] startState := {
    ids := nofun
    links := nofun
    columns := rfl
    rows := rfl
    wide := trivial }
  have posts : forall (deadline : Option Seconds) (before : History Double Seconds Problem),
      pagesOf before = [] ->
      (request client deadline none none (.post (serverUrl client ++ text "/v1/statement") sql) >>=
        readPages client deadline 999 startState).Holds (fun _ => Asked client sql)
        (fun history outcome => forall result, outcome = .ok result ->
          Whole client (pagesOf history) result.1) before := by
    intro deadline before noPages
    have isAsked : Asked client sql
        (.post (serverUrl client ++ text "/v1/statement") sql) := ⟨rfl, rfl⟩
    have noLink : forall uri, (none : Option Text) = some uri -> OnOrigin client uri := nofun
    refine Holds.bind (Holds.mono (request_holds deadline noLink isAsked before fun _ => rfl)
      fun history outcome brings => ?_)
    cases outcome with
    | error problem => exact nofun
    | ok response =>
        refine readPages_holds deadline 999 fresh rfl ?_
        rw [brings response rfl, noPages]
  unfold queryResult startDeadline
  cases client.queryTimeout with
  | none => exact posts none [] rfl
  | some queryTimeout =>
      refine ⟨trivial, fun answer => ?_⟩
      cases answer with
      | error problem => exact nofun
      | ok now => exact posts _ _ rfl

end Loop

end QueryResult
end Trino
end LakehouseOps
