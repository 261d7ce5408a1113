import LakehouseOps.Library.IsoFormat
import LakehouseOps.Library.SqlLiteral

/-!
# The statement of the candidate view

The text of the statement that makes the view of approved files, and the rows that an engine
reads in it. A path with a backslash is not read as it was written.
-/

namespace LakehouseOps
namespace Iceberg
namespace CandidateViewSql

open Library Library.SqlLiteral

/-! ## The statement -/

/-- `_sql_string` -/
def sqlString (value : Text) : Text :=
  doubled (char '\'') value

/-- `_identifier` -/
def identifier (value : Text) : Text :=
  text "`" ++ doubled (char '`') value ++ text "`"

/-- `isoformat(sep=" ", timespec="microseconds")` of a moment in UTC, without its offset -/
def timestampText (moment : UtcDatetime) : Text :=
  moment.date.isoformat ++ char ' ' :: (printPadded 2 moment.hour ++
    char ':' :: (printPadded 2 moment.minute ++ char ':' :: (printPadded 2 moment.second ++
      char '.' :: printPadded 6 moment.microsecond)))

/-- `_timestamp_literal` of a text that stands for the moment. -/
def timestampLiteral (moment : UtcDatetime) : Text :=
  text "TIMESTAMP '" ++ timestampText moment ++ text "'"

def candidateRow (path : Text) : Text :=
  text "('" ++ sqlString path ++ text "')"

/-- `_create_candidate_view_sql` -/
def createCandidateViewSql (view : Text) (olderThan : UtcDatetime) (candidates : List Text) :
    Text :=
  let rows := (text ", ").intercalate (candidates.map candidateRow)
  text "CREATE OR REPLACE TEMP VIEW " ++ identifier view ++ text " AS " ++
    text "SELECT file_path, " ++ timestampLiteral olderThan ++
    text " - INTERVAL 1 SECOND AS last_modified " ++ text "FROM VALUES " ++ rows ++
    text " AS candidates(file_path)"

/-! ## The rows that are read -/

/-- What follows a text. -/
def skipText : Text -> Text -> Option Text
  | [], points => some points
  | _ :: _, [] => none
  | expected :: word, point :: points => if point = expected then skipText word points else none

def skipSpaces (points : Text) : Text :=
  points.dropWhile SqlLiteral.isSpace

/-- What follows an identifier, behind its first backtick; the flag tells whether the last
character was a backtick that may be doubled. -/
def skipIdentifier : Bool -> Text -> Option Text
  | false, [] => none
  | false, point :: rest => skipIdentifier (point = char '`') rest
  | true, [] => some []
  | true, point :: rest =>
      if point = char '`' then skipIdentifier false rest else some (point :: rest)

/-- A row of one literal, and what follows the row and the spaces behind it. -/
def readRow (rules : LiteralRules) (points : Text) : Option (Text × Text) :=
  (skipText (text "(") points).bind fun points =>
    (skipText (text "'") (skipSpaces points)).bind fun points =>
      (readLiteral rules .inside points).bind fun read =>
        (skipText (text ")") read.2).map fun rest => (read.1, skipSpaces rest)

/-- Rows with commas between them; every row takes a character. -/
def readRows (rules : LiteralRules) : Nat -> Text -> Option (List Text × Text)
  | 0, _ => none
  | fuel + 1, points =>
      (readRow rules points).bind fun row =>
        match skipText (text ",") row.2 with
        | some rest =>
            (readRows rules fuel (skipSpaces rest)).map fun rows => (row.1 :: rows.1, rows.2)
        | none => some ([row.1], row.2)

/-- The rows of `file_path`, read in a statement of the view. -/
def viewRows (rules : LiteralRules) (sql : Text) : Option (List Text) :=
  (skipText (text "CREATE OR REPLACE TEMP VIEW `") sql).bind fun points =>
    (skipIdentifier false points).bind fun points =>
      (skipText (text " AS SELECT file_path, TIMESTAMP '") points).bind fun points =>
        (readLiteral rules .inside points).bind fun read =>
          (skipText (text "- INTERVAL 1 SECOND AS last_modified FROM VALUES ") read.2).bind
            fun points =>
              (readRows rules points.length points).bind fun rows =>
                if rows.2 = text "AS candidates(file_path)" then some rows.1 else none

/-! ## The start of the statement -/

theorem skipText_append (word rest : Text) : skipText word (word ++ rest) = some rest := by
  induction word with
  | nil => rfl
  | cons point word inductionHypothesis =>
      rw [List.cons_append, skipText, if_pos rfl, inductionHypothesis]

theorem skipIdentifier_doubled
    {rest : Text}
    (closes : skipIdentifier true rest = some rest)
    (view : Text) :
    skipIdentifier false (doubled (char '`') view ++ char '`' :: rest) = some rest := by
  induction view with
  | nil =>
      rw [doubled, List.flatMap_nil, List.nil_append, skipIdentifier, decide_eq_true rfl, closes]
  | cons point view inductionHypothesis =>
      rw [doubled_cons, List.append_assoc]
      by_cases isTick : point = char '`'
      · rw [if_pos isTick, List.cons_append, skipIdentifier, decide_eq_true rfl,
          List.singleton_append, skipIdentifier, if_pos rfl, inductionHypothesis]
      · rw [if_neg isTick, List.singleton_append, skipIdentifier, decide_eq_false isTick,
          inductionHypothesis]

/-- The text of a timestamp has digits and four other characters. -/
theorem mem_timestampText
    {moment : UtcDatetime}
    {point : CodePoint}
    (member : point ∈ timestampText moment) :
    isDigit point = true ∨ point ∈ text "- :." := by
  simp only [timestampText, List.mem_append, List.mem_cons] at member
  rcases member with date | rfl | hour | rfl | minute | rfl | second | rfl | microsecond
  · rcases mem_isoformat date with digit | rfl
    · exact .inl digit
    · exact .inr (by decide)
  · exact .inr (by decide)
  · exact .inl (isDigit_of_mem_printPadded hour)
  · exact .inr (by decide)
  · exact .inl (isDigit_of_mem_printPadded minute)
  · exact .inr (by decide)
  · exact .inl (isDigit_of_mem_printPadded second)
  · exact .inr (by decide)
  · exact .inl (isDigit_of_mem_printPadded microsecond)

theorem not_mem_timestampText
    (moment : UtcDatetime)
    {mark : CodePoint}
    (noDigit : isDigit mark = false)
    (noMark : mark ∉ text "- :.") :
    mark ∉ timestampText moment := by
  intro member
  rcases mem_timestampText member with digit | isMark
  · exact absurd (digit.symm.trans noDigit) (by decide)
  · exact noMark isMark

/-- The text of the rows. -/
def rowsText (candidates : List Text) : Text :=
  (text ", ").intercalate (candidates.map candidateRow)

/-- The rows that an engine reads are those in the text behind `VALUES`. -/
theorem viewRows_createCandidateViewSql
    (rules : LiteralRules)
    (view : Text)
    (olderThan : UtcDatetime)
    (candidates : List Text) :
    viewRows rules (createCandidateViewSql view olderThan candidates) =
      let points := rowsText candidates ++ text " AS candidates(file_path)"
      (readRows rules points.length points).bind fun rows =>
        if rows.2 = text "AS candidates(file_path)" then some rows.1 else none := by
  have noQuote : char '\'' ∉ timestampText olderThan :=
    not_mem_timestampText olderThan (by decide) (by decide)
  have noSlash : char '\\' ∉ timestampText olderThan :=
    not_mem_timestampText olderThan (by decide) (by decide)
  have start : text "CREATE OR REPLACE TEMP VIEW `" =
      text "CREATE OR REPLACE TEMP VIEW " ++ text "`" := by decide
  have selected : text " AS SELECT file_path, TIMESTAMP '" =
      text " AS " ++ (text "SELECT file_path, " ++ text "TIMESTAMP '") := by decide
  have values : text " " ++ text "- INTERVAL 1 SECOND AS last_modified FROM VALUES " =
      text " - INTERVAL 1 SECOND AS last_modified " ++ text "FROM VALUES " := by decide
  have shape : createCandidateViewSql view olderThan candidates =
      text "CREATE OR REPLACE TEMP VIEW `" ++ (doubled (char '`') view ++ (text "`" ++
        (text " AS SELECT file_path, TIMESTAMP '" ++
          (doubled (char '\'') (timestampText olderThan) ++ (text "'" ++
            (text " " ++ (text "- INTERVAL 1 SECOND AS last_modified FROM VALUES " ++
              (rowsText candidates ++ text " AS candidates(file_path)")))))))) := by
    rw [doubled_eq_self noQuote, ← List.append_assoc (text " "), values, start, selected]
    simp only [createCandidateViewSql, identifier, timestampLiteral, rowsText, List.append_assoc]
  have closesName : forall rest, skipIdentifier true
      (text " AS SELECT file_path, TIMESTAMP '" ++ rest) =
        some (text " AS SELECT file_path, TIMESTAMP '" ++ rest) := fun rest => rfl
  have closesTime : forall rest, readLiteral rules (.closed true)
      (text " " ++ (text "- INTERVAL 1 SECOND AS last_modified FROM VALUES " ++ rest)) =
        some ([], text "- INTERVAL 1 SECOND AS last_modified FROM VALUES " ++ rest) :=
    fun rest => rfl
  have name : forall rest, skipIdentifier false (doubled (char '`') view ++ (text "`" ++
      (text " AS SELECT file_path, TIMESTAMP '" ++ rest))) =
        some (text " AS SELECT file_path, TIMESTAMP '" ++ rest) :=
    fun rest => skipIdentifier_doubled (closesName rest) view
  have time : forall rest, readLiteral rules .inside
      (doubled (char '\'') (timestampText olderThan) ++ (text "'" ++
        (text " " ++ (text "- INTERVAL 1 SECOND AS last_modified FROM VALUES " ++ rest)))) =
          some (denoted rules (timestampText olderThan),
            text "- INTERVAL 1 SECOND AS last_modified FROM VALUES " ++ rest) :=
    fun rest => readLiteral_doubled rules (closesTime rest) (unescaped_of_not_mem rules noSlash)
  rw [viewRows, shape, skipText_append, Option.bind_some, name, Option.bind_some, skipText_append,
    Option.bind_some, time, Option.bind_some, skipText_append, Option.bind_some]

/-! ## Rows that are read back -/

section Rows

variable (rules : LiteralRules)

theorem readRow_candidateRow
    {path : Text}
    (unescaped : Unescaped rules path)
    (rest : Text) :
    readRow rules (candidateRow path ++ rest) = some (denoted rules path, skipSpaces rest) := by
  have shape : candidateRow path ++ rest =
      text "(" ++ (text "'" ++ (doubled (char '\'') path ++ char '\'' :: char ')' :: rest)) := by
    simp only [candidateRow, sqlString, List.append_assoc]
    rfl
  have noSpace : skipSpaces (text "'" ++ (doubled (char '\'') path ++ char '\'' :: char ')' :: rest)) =
      text "'" ++ (doubled (char '\'') path ++ char '\'' :: char ')' :: rest) := rfl
  rw [readRow, shape, skipText_append, Option.bind_some, noSpace, skipText_append,
    Option.bind_some,
    readLiteral_doubled rules (readLiteral_closed rules rest (by decide) (by decide)) unescaped,
    Option.bind_some]
  rfl

theorem rowsText_cons_cons (path next : Text) (candidates : List Text) :
    rowsText (path :: next :: candidates) =
      candidateRow path ++ (text ", " ++ rowsText (next :: candidates)) := rfl

theorem skipSpaces_rowsText (path : Text) (candidates : List Text) (rest : Text) :
    skipSpaces (char ' ' :: (rowsText (path :: candidates) ++ rest)) =
      rowsText (path :: candidates) ++ rest := by
  cases candidates <;> rfl

/-- The rows are read back, one after another, up to what follows them. -/
theorem readRows_rowsText
    {rest : Text}
    (ends : skipText (text ",") (skipSpaces rest) = none)
    {path : Text}
    {candidates : List Text}
    (unescaped : forall other, other ∈ path :: candidates -> Unescaped rules other)
    {fuel : Nat}
    (enough : candidates.length < fuel) :
    readRows rules fuel (rowsText (path :: candidates) ++ rest) =
      some ((path :: candidates).map (denoted rules), skipSpaces rest) := by
  induction candidates generalizing path fuel with
  | nil =>
      obtain ⟨fuel, rfl⟩ := Nat.exists_eq_succ_of_ne_zero (Nat.ne_of_gt enough)
      have single : rowsText [path] = candidateRow path := List.append_nil _
      rw [readRows, single, readRow_candidateRow rules (unescaped path List.mem_cons_self),
        Option.bind_some]
      dsimp only
      rw [ends]
      rfl
  | cons next candidates inductionHypothesis =>
      obtain ⟨fuel, rfl⟩ := Nat.exists_eq_succ_of_ne_zero (Nat.ne_zero_of_lt enough)
      have later := inductionHypothesis
        (fun other member => unescaped other (List.mem_cons_of_mem _ member))
        (Nat.lt_of_succ_lt_succ enough)
      have comma : skipText (text ",") (skipSpaces
          (text ", " ++ (rowsText (next :: candidates) ++ rest))) =
            some (char ' ' :: (rowsText (next :: candidates) ++ rest)) := rfl
      rw [readRows, rowsText_cons_cons, List.append_assoc, List.append_assoc,
        readRow_candidateRow rules (unescaped path List.mem_cons_self), Option.bind_some]
      dsimp only
      rw [comma]
      dsimp only
      rw [skipSpaces_rowsText, later]
      rfl

theorem length_rowsText (path : Text) (candidates : List Text) :
    candidates.length < (rowsText (path :: candidates)).length := by
  induction candidates generalizing path with
  | nil => exact Nat.zero_lt_succ _
  | cons next candidates inductionHypothesis =>
      have later := inductionHypothesis next
      have row : 0 < (candidateRow path).length := Nat.zero_lt_succ _
      rw [rowsText_cons_cons, List.length_append, List.length_append, List.length_cons]
      omega

/-! ## What rows cost -/

theorem weight_skipText
    {word points rest : Text}
    (skipped : skipText word points = some rest) :
    weight points = weight word + weight rest := by
  induction word generalizing points with
  | nil =>
      rw [Option.some.inj skipped]
      exact (Nat.zero_add _).symm
  | cons expected word inductionHypothesis =>
      cases points with
      | nil => cases skipped
      | cons point points =>
          rw [skipText] at skipped
          split at skipped
          · next same =>
              rw [weight_cons, weight_cons, same, inductionHypothesis skipped, Nat.add_assoc]
          · cases skipped

theorem weight_skipSpaces (points : Text) : weight (skipSpaces points) = weight points := by
  induction points with
  | nil => rfl
  | cons point points inductionHypothesis =>
      rw [skipSpaces, List.dropWhile_cons]
      split
      · next space =>
          rw [weight_cons, if_pos space, Nat.zero_add]
          exact inductionHypothesis
      · rfl

/-- A row is at least its value and four marks. -/
theorem cost_readRow
    {points value rest : Text}
    (read : readRow rules points = some (value, rest)) :
    4 + cost rules value + weight rest ≤ weight points := by
  simp only [readRow, Option.bind_eq_some_iff, Option.map_eq_some_iff] at read
  obtain ⟨behindBracket, bracket, behindQuote, quote, ⟨inner, after⟩, literal, last, closing,
    same⟩ := read
  obtain ⟨rfl, rfl⟩ := Prod.mk.inj same
  have opened := weight_skipText bracket
  have quoted := weight_skipText quote
  have closed := weight_skipText closing
  have paid := cost_readLiteral rules literal
  have marks : weight (text "(") = 1 ∧ weight (text "'") = 1 ∧ weight (text ")") = 1 := by decide
  rw [weight_skipSpaces] at quoted
  rw [weight_skipSpaces]
  simp only [LiteralMode.open] at paid
  dsimp only at closed ⊢
  omega

/-- Rows are at least their values, four marks each, and the commas between them. -/
theorem cost_readRows
    {fuel : Nat}
    {points rest : Text}
    {rows : List Text}
    (read : readRows rules fuel points = some (rows, rest)) :
    (rows.map fun row => 5 + cost rules row).sum + weight rest ≤ weight points + 1 := by
  induction fuel generalizing points rest rows with
  | zero => cases read
  | succ fuel inductionHypothesis =>
      obtain ⟨⟨value, after⟩, isRow, read⟩ := Option.bind_eq_some_iff.mp read
      have paid := cost_readRow rules isRow
      cases comma : skipText (text ",") after with
      | none =>
          dsimp only at read
          rw [comma] at read
          obtain ⟨rfl, rfl⟩ := Prod.mk.inj (Option.some.inj read)
          rw [List.map_singleton, List.sum_singleton]
          omega
      | some behind =>
          dsimp only at read
          rw [comma] at read
          obtain ⟨⟨later, last⟩, isLater, same⟩ := Option.map_eq_some_iff.mp read
          obtain ⟨rfl, rfl⟩ := Prod.mk.inj same
          have paidLater := inductionHypothesis isLater
          have passed := weight_skipText comma
          have mark : weight (text ",") = 1 := by decide
          rw [weight_skipSpaces] at paidLater
          rw [List.map_cons, List.sum_cons]
          dsimp only
          omega

theorem weight_rowsText (path : Text) (candidates : List Text) :
    weight (rowsText (path :: candidates)) + 1 =
      ((path :: candidates).map fun other => 5 + weight (doubled (char '\'') other)).sum := by
  have row : forall other, weight (candidateRow other) = 4 + weight (doubled (char '\'') other) := by
    intro other
    have marks : weight (text "('") = 2 ∧ weight (text "')") = 2 := by decide
    rw [candidateRow, sqlString, weight_append, weight_append]
    omega
  induction candidates generalizing path with
  | nil =>
      have single : rowsText [path] = candidateRow path := List.append_nil _
      rw [single, row, List.map_singleton, List.sum_singleton]
      omega
  | cons next candidates inductionHypothesis =>
      have later := inductionHypothesis next
      have comma : weight (text ", ") = 1 := by decide
      rw [rowsText_cons_cons, weight_append, weight_append, row, List.map_cons, List.sum_cons]
      omega

end Rows

/-! ## The rows of the view -/

/-- Lower amounts with no lower sum are the same amounts. -/
theorem eq_of_sum_le
    (low high : Text -> Nat)
    {values : List Text}
    (each : forall value, low value ≤ high value)
    (sums : (values.map high).sum ≤ (values.map low).sum) :
    forall value, value ∈ values -> low value = high value := by
  induction values with
  | nil => exact List.forall_mem_nil _
  | cons value values inductionHypothesis =>
      have first := each value
      have rest := List.sum_le_sum fun other (_ : other ∈ values) => each other
      rw [List.map_cons, List.map_cons, List.sum_cons, List.sum_cons] at sums
      exact List.forall_mem_cons.mpr ⟨by omega, inductionHypothesis (by omega)⟩

/-- Where every backslash stays, the rows are the paths, but for quotes that do not stay. -/
theorem viewRows_unescaped
    {rules : LiteralRules}
    {candidates : List Text}
    (present : candidates ≠ [])
    (view : Text)
    (olderThan : UtcDatetime)
    (unescaped : forall path, path ∈ candidates -> Unescaped rules path) :
    viewRows rules (createCandidateViewSql view olderThan candidates) =
      some (candidates.map (denoted rules)) := by
  obtain ⟨path, rest, rfl⟩ := List.exists_cons_of_ne_nil present
  have ends : skipText (text ",") (skipSpaces (text " AS candidates(file_path)")) = none := rfl
  have enough : rest.length <
      (rowsText (path :: rest) ++ text " AS candidates(file_path)").length := by
    rw [List.length_append]
    exact Nat.lt_add_right _ (length_rowsText path rest)
  rw [viewRows_createCandidateViewSql]
  dsimp only
  rw [readRows_rowsText rules ends unescaped enough, Option.bind_some]
  exact if_pos rfl

/-- Rows that are the paths leave no backslash that escapes. -/
theorem unescaped_of_viewRows
    {rules : LiteralRules}
    {view : Text}
    {olderThan : UtcDatetime}
    {candidates rows : List Text}
    (present : candidates ≠ [])
    (read : viewRows rules (createCandidateViewSql view olderThan candidates) = some rows)
    (permuted : rows.Perm candidates) :
    forall path, path ∈ candidates -> Unescaped rules path := by
  obtain ⟨first, rest, rfl⟩ := List.exists_cons_of_ne_nil present
  rw [viewRows_createCandidateViewSql] at read
  obtain ⟨⟨readBack, after⟩, isRead, ends⟩ := Option.bind_eq_some_iff.mp read
  dsimp only at ends
  split at ends
  · next isEnd =>
      have paid := cost_readRows rules isRead
      rw [Option.some.inj ends, (permuted.map fun row => 5 + cost rules row).sum_eq, isEnd,
        weight_append] at paid
      have written := weight_rowsText first rest
      have tails : weight (text "AS candidates(file_path)") =
          weight (text " AS candidates(file_path)") := by decide
      have same := eq_of_sum_le (fun path => 5 + weight (doubled (char '\'') path))
        (fun path => 5 + cost rules path)
        (fun path => Nat.add_le_add_left (weight_doubled rules path).1 5)
        (by omega : ((first :: rest).map fun path => 5 + cost rules path).sum ≤
          ((first :: rest).map fun path => 5 + weight (doubled (char '\'') path)).sum)
      intro path member
      exact (weight_doubled rules path).2 (Nat.add_left_cancel (same path member))
  · cases ends

/-- The view has exactly the paths as its rows when no backslash of them escapes, and the
engine takes a doubled quote for a quote or there is none. -/
theorem view_rows_exact_iff
    (rules : LiteralRules)
    (view : Text)
    (olderThan : UtcDatetime)
    {candidates : List Text}
    (present : candidates ≠ []) :
    (Exists fun rows =>
      viewRows rules (createCandidateViewSql view olderThan candidates) = some rows ∧
        rows.Perm candidates) ↔
      (forall path, path ∈ candidates -> Unescaped rules path) ∧
        (rules.doubledStays = true ∨ forall path, path ∈ candidates -> char '\'' ∉ path) := by
  constructor
  · rintro ⟨rows, read, permuted⟩
    have unescaped := unescaped_of_viewRows present read permuted
    refine ⟨unescaped, ?_⟩
    rw [viewRows_unescaped present view olderThan unescaped] at read
    cases stays : rules.doubledStays with
    | true => exact .inl rfl
    | false =>
        refine .inr ?_
        have shorter : forall path, (denoted rules path).length ≤ path.length := by
          intro path
          rw [denoted, stays]
          exact List.length_filter_le _ _
        have lengths := (permuted.map List.length).sum_eq
        rw [← Option.some.inj read, List.map_map] at lengths
        have same := eq_of_sum_le _ _ shorter (Nat.le_of_eq lengths.symm)
        intro path member isQuote
        have filtered := same path member
        rw [denoted, stays] at filtered
        have kept := List.length_filter_eq_length_iff.mp filtered _ isQuote
        exact of_decide_eq_true kept rfl
  · rintro ⟨unescaped, stays⟩
    refine ⟨_, viewRows_unescaped present view olderThan unescaped, .of_eq ?_⟩
    refine (List.map_congr_left fun path member => ?_).trans (List.map_id candidates)
    rw [denoted]
    rcases stays with stays | noQuote
    · exact if_pos stays
    · split
      · rfl
      · refine List.filter_eq_self.mpr fun point isPoint => decide_eq_true ?_
        rintro rfl
        exact noQuote path member isPoint

/-- What Spark takes an escaped character for. -/
def sparkEscape (point : CodePoint) : CodePoint :=
  if point = char '0' then char '\x00'
  else if point = char 'b' then char '\x08'
  else if point = char 't' then char '\t'
  else if point = char 'n' then char '\n'
  else if point = char 'r' then char '\r'
  else if point = char 'Z' then char '\x1a'
  else point

/-- The rules of Spark, where a doubled quote stands for a quote. -/
def sparkRules : LiteralRules where
  escape := sparkEscape
  keeps := fun point => point ∈ text "%_"
  doubledStays := true
  escape_space := by
    intro point space
    obtain ⟨character, isSpace, rfl⟩ := List.mem_map.mp (of_decide_eq_true space)
    have each : forall other, other ∈ [' ', '\t', '\r', '\n'] ->
        sparkEscape (char other) ≠ char '\'' ∧ sparkEscape (char other) ≠ char '\\' := by
      simp [sparkEscape]
    exact each character isSpace
  keeps_plain := by
    intro point keeps
    obtain ⟨character, isKept, rfl⟩ := List.mem_map.mp (of_decide_eq_true keeps)
    have each : forall other, other ∈ ['%', '_'] ->
        char other ≠ char '\'' ∧ char other ≠ char '\\' := by
      simp
    exact each character isKept

def sampleOlderThan : UtcDatetime where
  date := { year := 2026, month := 1, day := 2, valid := by decide }
  hour := 3
  minute := 4
  second := 5
  microsecond := 0
  valid := by decide

/-- A path with a quote is a row as it is written. -/
theorem quoted_path_exact :
    Exists fun rows =>
      viewRows sparkRules (createCandidateViewSql (text "lakehouse_ops_orphans_0f") sampleOlderThan
          [text "s3://lakehouse/it's.parquet"]) = some rows ∧
        rows.Perm [text "s3://lakehouse/it's.parquet"] :=
  (view_rows_exact_iff sparkRules _ sampleOlderThan (List.cons_ne_nil _ [])).mpr
    ⟨List.forall_mem_singleton.mpr (unescaped_of_not_mem sparkRules (by decide +kernel)), .inl rfl⟩

/-- A path with a backslash is not. -/
theorem backslash_path_not_exact :
    ¬(forall (view : Text) (olderThan : UtcDatetime) (candidates : List Text),
      candidates ≠ [] ->
      (forall path, path ∈ candidates -> path ≠ [] ∧ 0 ∉ path) ->
      Exists fun rows =>
        viewRows sparkRules (createCandidateViewSql view olderThan candidates) = some rows ∧
          rows.Perm candidates) := by
  intro always
  obtain ⟨rows, read, permuted⟩ := always (text "lakehouse_ops_orphans_0f") sampleOlderThan
    [text "s3://lakehouse/a\\b.parquet"] (List.cons_ne_nil _ [])
    (List.forall_mem_singleton.mpr ⟨List.cons_ne_nil _ _, by decide +kernel⟩)
  have unescaped := unescaped_of_viewRows (List.cons_ne_nil _ []) read permuted _ List.mem_cons_self
  exact absurd unescaped (by decide +kernel)

end CandidateViewSql
end Iceberg
end LakehouseOps
