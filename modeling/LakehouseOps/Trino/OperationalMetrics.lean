import LakehouseOps.Library.Fallible
import LakehouseOps.Library.Loop
import LakehouseOps.Library.Truthiness

/-!
# Operational metrics

The collector follows the pages of one query, from next link to next link, and takes the one
row that they have for a snapshot of the table.
-/

namespace LakehouseOps
namespace Trino
namespace OperationalMetrics

open Library Library.Document Library.Fallible Library.Loop

variable {Double Problem : Type}

/-! ## The snapshot -/

/-- A page of the coordinator. -/
abbrev Page (Double : Type) := List (Text × Document Double)

/-- `OperationalMetricsError`, or what the client raises. -/
inductive CollectError (Problem : Type)
  | raised (problem : Problem)
  | metrics (message : Text)

/-- What Python makes of values. -/
structure Values (Double : Type) where
  str : Document Double -> Text
  /-- `float(number)`, unless it overflows -/
  ofInt : Int -> Option Double
  /-- Whether a float is finite and greater than zero. -/
  isPositive : Double -> Bool

structure OperationalSnapshot (Double : Type) where
  rowCount : Int
  latestIngestedAt : Double
  dataFileCount : Int
  smallFileCount : Int
  snapshotCount : Int

/-- The names of the columns and the rows, as far as they are announced. -/
structure Announced (Double : Type) where
  columnNames : Option (List Text)
  rows : List (List (Document Double))

/-- `str(column["name"])`, of a column that has a name -/
def columnName (values : Values Double) : Document Double -> Option Text
  | .object column => (column.lookup (text "name")).map values.str
  | _ => none

def rowOf : Document Double -> Option (List (Document Double))
  | .array row => some row
  | _ => none

/-- The text of the error of a page. -/
def errorMessage (values : Values Double) (error : Page Double) : Text :=
  ((error.lookup (text "errorName")).map values.str).getD (text "TRINO_QUERY_ERROR") ++
    text ": " ++ ((error.lookup (text "message")).map values.str).getD (text "query failed")

/-- One turn of the loop of `parse_operational_snapshot`. -/
def announcePage (values : Values Double) (announced : Announced Double) (page : Page Double) :
    Except Text (Announced Double) :=
  match page.lookup (text "error") with
  | some (.object error) => .error (errorMessage values error)
  | _ => .ok {
      columnNames := ((arrayField page (text "columns")).map fun columns =>
        columns.filterMap (columnName values)).or announced.columnNames
      rows := announced.rows ++ ((arrayField page (text "data")).getD []).filterMap rowOf }

/-- An integer over a bound. -/
def intAbove (bound : Int) (value : Option (Document Double)) (name : String) : Except Text Int :=
  match value with
  | some (.int number) =>
      if bound < number then .ok number else .error (text name ++ text " is invalid")
  | _ => .error (text name ++ text " is invalid")

/-- `_positive_int` -/
def positiveInt (value : Option (Document Double)) (name : String) : Except Text Int :=
  intAbove 0 value name

/-- `_non_negative_int` -/
def nonNegativeInt (value : Option (Document Double)) (name : String) : Except Text Int :=
  intAbove (-1) value name

/-- `_positive_float` -/
def positiveFloat (values : Values Double) (value : Option (Document Double)) (name : String) :
    Except Text Double :=
  let converted := match value with
    | some (.int number) => values.ofInt number
    | some (.float number) => some number
    | _ => none
  match converted with
  | some number =>
      if values.isPositive number = true then .ok number
      else .error (text name ++ text " is invalid")
  | none => .error (text name ++ text " is invalid")

/-- The snapshot of a row, by the names of its columns. -/
def snapshotOf (values : Values Double) (row : Page Double) :
    Except Text (OperationalSnapshot Double) := do
  let rowCount <- positiveInt (row.lookup (text "row_count")) "row_count"
  let latestIngestedAt <-
    positiveFloat values (row.lookup (text "latest_ingested_at")) "latest_ingested_at"
  let dataFileCount <- positiveInt (row.lookup (text "data_file_count")) "data_file_count"
  let smallFileCount <- nonNegativeInt (row.lookup (text "small_file_count")) "small_file_count"
  let snapshotCount <- positiveInt (row.lookup (text "snapshot_count")) "snapshot_count"
  reject (dataFileCount < smallFileCount) (text "small_file_count exceeds data_file_count")
  return { rowCount, latestIngestedAt, dataFileCount, smallFileCount, snapshotCount }

/-- `parse_operational_snapshot` -/
def parseOperationalSnapshot (values : Values Double) (pages : List (Page Double)) :
    Except Text (OperationalSnapshot Double) := do
  let announced <- pages.foldlM (announcePage values) { columnNames := none, rows := [] }
  match announced.columnNames, announced.rows with
  | some names, [row] =>
      if names.length = row.length then snapshotOf values (dictOf (names.zip row))
      else .error (text "Trino returned an unexpected operational snapshot")
  | _, _ => .error (text "Trino returned an unexpected operational snapshot")

/-! ## The loop over the pages -/

/-- A request: the statement is posted, or a link is followed. -/
inductive PageRequest
  | post (uri user : Text)
  | get (uri user : Text)

def startRequest (server user : Text) : PageRequest :=
  .post ((server.reverse.dropWhile fun point => point = char '/').reverse ++ text "/v1/statement")
    user

/-- A link that is followed. -/
def isLink (uri : Text) : Bool :=
  (text "http://").isPrefixOf uri || (text "https://").isPrefixOf uri

/-- What `nextUri` of a page is. -/
inductive NextUri
  | missing
  | link (uri : Text)
  | invalid

def nextUri (page : Page Double) : NextUri :=
  match page.lookup (text "nextUri") with
  | none | some .null => .missing
  | some (.string uri) => if isLink uri = true then .link uri else .invalid
  | some _ => .invalid

/-- The page of a response that is an object. -/
def pageOf : Document Double -> Option (Page Double)
  | .object page => some page
  | _ => none

/-- One turn of the loop of `fetch_operational_snapshot`. -/
def readPage (values : Values Double) (user : Text) (state : PageRequest × List (Page Double)) :
    Except Problem (Document Double) ->
      Progress (PageRequest × List (Page Double))
        (Except (CollectError Problem) (OperationalSnapshot Double))
  | .error problem => .ended (.error (.raised problem))
  | .ok response =>
      match pageOf response with
      | none => .ended (.error (.metrics (text "Trino response is not a JSON object")))
      | some page =>
          match nextUri page with
          | .missing =>
              .ended ((parseOperationalSnapshot values (state.2 ++ [page])).mapError .metrics)
          | .link uri => .waiting (.get uri user, state.2 ++ [page])
          | .invalid => .ended (.error (.metrics (text "Trino next URI is invalid")))

/-- `fetch_operational_snapshot` -/
def fetchOperationalSnapshot (values : Values Double) (user : Text) :
    Loop (Progress (PageRequest × List (Page Double))
        (Except (CollectError Problem) (OperationalSnapshot Double)))
      PageRequest (Except Problem (Document Double))
      (Except (CollectError Problem) (OperationalSnapshot Double)) :=
  reading Prod.fst (readPage values user)

/-! ## When the loop stops -/

/-- The client answers with a page that has a link to follow. -/
def HasLink (answer : Except Problem (Document Double)) : Prop :=
  Exists fun response => Exists fun page => Exists fun uri =>
    answer = .ok response ∧ pageOf response = some page ∧ nextUri page = .link uri

/-- The client answers with a page that has no next link at all. -/
def LastPage (answer : Except Problem (Document Double)) : Prop :=
  Exists fun response => Exists fun page =>
    answer = .ok response ∧ pageOf response = some page ∧ nextUri page = .missing

/-- The pages among the first answers. -/
def pages (answers : Nat -> Except Problem (Document Double)) (count : Nat) :
    List (Page Double) :=
  (List.range count).filterMap fun index => (answers index).toOption.bind pageOf

/-- An error, or the snapshot of all pages up to the last one. -/
def Complete (values : Values Double) (answers : Nat -> Except Problem (Document Double)) :
    Except (CollectError Problem) (OperationalSnapshot Double) -> Prop
  | .error _ => True
  | .ok snapshot =>
      Exists fun last => LastPage (answers last) ∧
        parseOperationalSnapshot values (pages answers (last + 1)) = .ok snapshot

section

variable {values : Values Double} {user : Text}

theorem readPage_waiting_iff {state next : PageRequest × List (Page Double)}
    {answer : Except Problem (Document Double)} :
    readPage values user state answer = .waiting next ↔
      Exists fun response => Exists fun page => Exists fun uri =>
        answer = .ok response ∧ pageOf response = some page ∧ nextUri page = .link uri ∧
          next = (.get uri user, state.2 ++ [page]) := by
  constructor
  · intro waits
    cases answer with
    | error problem => nomatch waits
    | ok response =>
        rw [readPage] at waits
        cases isPage : pageOf response with
        | none =>
            rw [isPage] at waits
            nomatch waits
        | some page =>
            rw [isPage] at waits
            dsimp only at waits
            cases isNext : nextUri page with
            | missing =>
                rw [isNext] at waits
                nomatch waits
            | invalid =>
                rw [isNext] at waits
                nomatch waits
            | link uri =>
                rw [isNext] at waits
                exact ⟨response, page, uri, rfl, isPage, isNext, (Progress.waiting.inj waits).symm⟩
  · rintro ⟨response, page, uri, rfl, isPage, isNext, rfl⟩
    rw [readPage, isPage]
    dsimp only
    rw [isNext]

theorem readPage_returned {state : PageRequest × List (Page Double)}
    {answer : Except Problem (Document Double)} {snapshot : OperationalSnapshot Double}
    (ended : readPage values user state answer = .ended (.ok snapshot)) :
    Exists fun response => Exists fun page =>
      answer = .ok response ∧ pageOf response = some page ∧ nextUri page = .missing ∧
        parseOperationalSnapshot values (state.2 ++ [page]) = .ok snapshot := by
  cases answer with
  | error problem => nomatch Progress.ended.inj ended
  | ok response =>
      rw [readPage] at ended
      cases isPage : pageOf response with
      | none =>
          rw [isPage] at ended
          nomatch Progress.ended.inj ended
      | some page =>
          rw [isPage] at ended
          dsimp only at ended
          cases isNext : nextUri page with
          | invalid =>
              rw [isNext] at ended
              nomatch Progress.ended.inj ended
          | link uri =>
              rw [isNext] at ended
              nomatch ended
          | missing =>
              rw [isNext] at ended
              refine ⟨response, page, rfl, isPage, isNext, ?_⟩
              have parsed := Progress.ended.inj ended
              cases isParsed : parseOperationalSnapshot values (state.2 ++ [page]) with
              | error problem =>
                  rw [isParsed] at parsed
                  nomatch parsed
              | ok result =>
                  rw [isParsed] at parsed
                  exact congrArg Except.ok (Except.ok.inj parsed)

theorem readPage_ends_iff (state : PageRequest × List (Page Double))
    (answer : Except Problem (Document Double)) :
    (Exists fun value => readPage values user state answer = .ended value) ↔ ¬HasLink answer := by
  cases isNext : readPage values user state answer with
  | waiting next =>
      obtain ⟨response, page, uri, isPage, isLink⟩ := readPage_waiting_iff.mp isNext
      refine ⟨fun ⟨value, never⟩ => (nomatch never), fun noLink => absurd ?_ noLink⟩
      exact ⟨response, page, uri, isPage, isLink.1, isLink.2.1⟩
  | ended value =>
      refine ⟨fun _ => ?_, fun _ => ⟨value, rfl⟩⟩
      rintro ⟨response, page, uri, isPage, isObject, isLink⟩
      have waits : readPage values user state answer =
          .waiting (.get uri user, state.2 ++ [page]) :=
        readPage_waiting_iff.mpr ⟨response, page, uri, isPage, isObject, isLink, rfl⟩
      exact nomatch isNext.symm.trans waits

theorem pages_succ {answers : Nat -> Except Problem (Document Double)} {count : Nat}
    {response : Document Double} {page : Page Double}
    (isResponse : answers count = .ok response)
    (isPage : pageOf response = some page) :
    pages answers (count + 1) = pages answers count ++ [page] := by
  rw [pages, pages, List.range_succ, List.filterMap_append, List.filterMap_cons, isResponse,
    Except.toOption, Option.bind_some, isPage]
  rfl

/-- What the loop returns is complete. -/
theorem complete_of_stops {server : Text} {answers : Nat -> Except Problem (Document Double)}
    {result : Except (CollectError Problem) (OperationalSnapshot Double)}
    (stops : (fetchOperationalSnapshot values user).StopsFrom answers 0
      (.waiting (startRequest server user, [])) result) :
    Complete values answers result := by
  obtain ⟨last, final, before, ended⟩ := stops.ended_by
    (fun index state => state.2 = pages answers index)
    (by
      intro index state next before waits
      obtain ⟨response, page, uri, isResponse, isPage, _, rfl⟩ := readPage_waiting_iff.mp waits
      rw [pages_succ isResponse isPage, ← before])
    rfl
  cases result with
  | error problem => trivial
  | ok snapshot =>
      obtain ⟨response, page, isResponse, isPage, isLast, parsed⟩ := readPage_returned ended
      refine ⟨last, ⟨response, page, isResponse, isPage, isLast⟩, ?_⟩
      rw [pages_succ isResponse isPage, ← before, parsed]

/-- The loop stops, with what is complete, exactly when some answer has no link to follow. -/
theorem stops_complete_iff (server : Text) (answers : Nat -> Except Problem (Document Double)) :
    (Exists fun result =>
      (fetchOperationalSnapshot values user).StopsFrom answers 0
          (.waiting (startRequest server user, [])) result ∧ Complete values answers result) ↔
      Exists fun index => ¬HasLink (answers index) := by
  rw [← stops_iff_ends readPage_ends_iff (startRequest server user, ([] : List (Page Double)))]
  constructor
  · rintro ⟨result, stops, _⟩
    exact ⟨result, stops⟩
  · rintro ⟨result, stops⟩
    exact ⟨result, stops, complete_of_stops stops⟩

end

end OperationalMetrics
end Trino
end LakehouseOps
