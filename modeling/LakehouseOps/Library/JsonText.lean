import Mathlib.Data.List.Sort
import LakehouseOps.Library.JsonTokens

/-!
# JSON texts

`json.dumps` with sorted keys, and `json.loads`. A dumped document is loaded back with
the entries of every object in the order of their keys, so the text tells the document up
to that order.
-/

namespace LakehouseOps
namespace Library

/-- A JSON document, with floats of the given type. -/
inductive Document (Double : Type)
  | null
  | bool (value : Bool)
  | int (value : Int)
  | float (value : Double)
  | string (value : Text)
  | array (values : List (Document Double))
  | object (entries : List (Text × Document Double))

/-- How floats are written and read: `json`'s `floatstr` and `float`. -/
structure FloatFormat (Double : Type) where
  write : Double -> Text
  read : Text -> Double

/-- What Python promises of the two: a float that is written is read back, and is one of
three words or a number with a fraction or an exponent. -/
structure FloatFormat.Lawful {Double : Type} (floats : FloatFormat Double) : Prop where
  read_write : forall value, floats.read (floats.write value) = value
  written : forall value,
    floats.write value ∈ ([text "NaN", text "Infinity", text "-Infinity"] : List Text) ∨
      Exists fun token : NumberToken =>
        scanNumber (floats.write value) = some (token, []) ∧
          ¬(token.fraction = [] ∧ token.exponent = []) ∧
          token.integer ++ token.fraction ++ token.exponent = floats.write value

namespace Document

variable {Double : Type} {floats : FloatFormat Double}

/-- Induction on documents: an array follows from its values, an object from the values
of its entries. -/
@[elab_as_elim] theorem induction
    {motive : Document Double -> Prop}
    (null : motive .null)
    (bool : forall value, motive (.bool value))
    (int : forall value, motive (.int value))
    (float : forall value, motive (.float value))
    (string : forall value, motive (.string value))
    (array : forall values : List (Document Double),
      (forall value, value ∈ values -> motive value) -> motive (.array values))
    (object : forall entries : List (Text × Document Double),
      (forall entry, entry ∈ entries -> motive entry.2) -> motive (.object entries))
    (document : Document Double) :
    motive document := by
  refine Document.rec (motive_1 := motive) (motive_2 := fun values =>
    forall value, value ∈ values -> motive value) (motive_3 := fun entries =>
    forall entry, entry ∈ entries -> motive entry.2) (motive_4 := fun entry => motive entry.2)
    null bool int float string array object ?_ ?_ ?_ ?_ ?_ document
  · exact fun value member => absurd member List.not_mem_nil
  · exact fun _ _ first rest => List.forall_mem_cons.mpr ⟨first, rest⟩
  · exact fun entry member => absurd member List.not_mem_nil
  · exact fun _ _ first rest => List.forall_mem_cons.mpr ⟨first, rest⟩
  · exact fun _ _ value => value

/-! ## Writing -/

mutual

/-- The text of a document, with the entries of objects in the order they have. -/
def write (floats : FloatFormat Double) : Document Double -> Text
  | .null => text "null"
  | .bool true => text "true"
  | .bool false => text "false"
  | .int value => printInt value
  | .float value => floats.write value
  | .string value => quoted value
  | .array [] => text "[]"
  | .array (value :: values) => char '[' :: write floats value ++ writeValues floats values
  | .object [] => [char '\x7b', char '\x7d']
  | .object ((key, value) :: entries) =>
      char '\x7b' :: quoted key ++ char ':' :: write floats value ++ writeEntries floats entries

/-- The values after the first one of an array. -/
def writeValues (floats : FloatFormat Double) : List (Document Double) -> Text
  | [] => [char ']']
  | value :: values => char ',' :: write floats value ++ writeValues floats values

/-- The entries after the first one of an object. -/
def writeEntries (floats : FloatFormat Double) : List (Text × Document Double) -> Text
  | [] => [char '\x7d']
  | (key, value) :: entries =>
      char ',' :: quoted key ++ char ':' :: write floats value ++ writeEntries floats entries

end

/-! ## Reading -/

/-- The characters that may stand between the tokens. -/
def skipSpace (points : Text) : Text :=
  points.dropWhile fun point => point ∈ ([32, 9, 10, 13] : Text)

/-- The text after a word, if it starts with the word. -/
def literal : Text -> Text -> Option Text
  | [], points => some points
  | _ :: _, [] => none
  | letter :: word, point :: points =>
      if letter = point then literal word points else none

/-- The value of a number: an integer, unless it has a fraction or an exponent. -/
def ofNumber (floats : FloatFormat Double) (token : NumberToken) : Document Double :=
  if token.fraction = [] ∧ token.exponent = [] then .int (readInt token.integer)
  else .float (floats.read (token.integer ++ token.fraction ++ token.exponent))

/-- The values other than strings, arrays and objects. -/
def readScalar (floats : FloatFormat Double) (points : Text) :
    Option (Document Double × Text) :=
  ((literal (text "null") points).map fun rest => (.null, rest)) <|>
  ((literal (text "true") points).map fun rest => (.bool true, rest)) <|>
  ((literal (text "false") points).map fun rest => (.bool false, rest)) <|>
  ((scanNumber points).map fun scanned => (ofNumber floats scanned.1, scanned.2)) <|>
  ((literal (text "NaN") points).map fun rest => (.float (floats.read (text "NaN")), rest)) <|>
  ((literal (text "Infinity") points).map
    fun rest => (.float (floats.read (text "Infinity")), rest)) <|>
  ((literal (text "-Infinity") points).map
    fun rest => (.float (floats.read (text "-Infinity")), rest))

mutual

/-- `scan_once`: a value at the start of the text. -/
def readValue (floats : FloatFormat Double) : Nat -> Text -> Option (Document Double × Text)
  | 0, _ => none
  | _ + 1, [] => none
  | fuel + 1, first :: rest =>
      if first = char '"' then
        (scanString rest).map fun scanned => (.string scanned.1, scanned.2)
      else if first = char '[' then
        if (skipSpace rest).head? = some (char ']') then some (.array [], (skipSpace rest).tail)
        else
          (readValue floats fuel (skipSpace rest)).bind fun value =>
            (readValues floats fuel value.2).map fun values =>
              (.array (value.1 :: values.1), values.2)
      else if first = char '\x7b' then
        if (skipSpace rest).head? = some (char '\x7d') then
          some (.object [], (skipSpace rest).tail)
        else
          (readEntry floats fuel (skipSpace rest)).bind fun entry =>
            (readEntries floats fuel entry.2).map fun entries =>
              (.object (entry.1 :: entries.1), entries.2)
      else readScalar floats (first :: rest)

/-- The values of an array after the first one. -/
def readValues (floats : FloatFormat Double) :
    Nat -> Text -> Option (List (Document Double) × Text)
  | 0, _ => none
  | fuel + 1, points =>
      match skipSpace points with
      | [] => none
      | first :: rest =>
          if first = char ']' then some ([], rest)
          else if first = char ',' then
            (readValue floats fuel (skipSpace rest)).bind fun value =>
              (readValues floats fuel value.2).map fun values =>
                (value.1 :: values.1, values.2)
          else none

/-- A key, a colon and a value. -/
def readEntry (floats : FloatFormat Double) :
    Nat -> Text -> Option ((Text × Document Double) × Text)
  | 0, _ => none
  | _ + 1, [] => none
  | fuel + 1, first :: rest =>
      if first = char '"' then
        (scanString rest).bind fun key =>
          if (skipSpace key.2).head? = some (char ':') then
            (readValue floats fuel (skipSpace (skipSpace key.2).tail)).map fun value =>
              ((key.1, value.1), value.2)
          else none
      else none

/-- The entries of an object after the first one. -/
def readEntries (floats : FloatFormat Double) :
    Nat -> Text -> Option (List (Text × Document Double) × Text)
  | 0, _ => none
  | fuel + 1, points =>
      match skipSpace points with
      | [] => none
      | first :: rest =>
          if first = char '\x7d' then some ([], rest)
          else if first = char ',' then
            (readEntry floats fuel (skipSpace rest)).bind fun entry =>
              (readEntries floats fuel entry.2).map fun entries =>
                (entry.1 :: entries.1, entries.2)
          else none

end

/-! ## What is written is read back -/

theorem skipSpace_cons
    {first : CodePoint}
    (noSpace : first ∉ ([32, 9, 10, 13] : Text))
    (rest : Text) :
    skipSpace (first :: rest) = first :: rest := by
  unfold skipSpace
  rw [List.dropWhile_cons_of_neg (by simpa using noSpace)]

theorem literal_append (word rest : Text) : literal word (word ++ rest) = some rest := by
  induction word with
  | nil => rfl
  | cons letter word inductionHypothesis =>
      rw [List.cons_append, literal, if_pos rfl, inductionHypothesis]

theorem literal_differs
    {letter first : CodePoint}
    (differ : letter ≠ first)
    (word rest : Text) :
    literal (letter :: word) (first :: rest) = none :=
  if_neg differ

/-- A number is read after the words have failed. -/
theorem readScalar_number
    {points rest : Text}
    {token : NumberToken}
    (scanned : scanNumber points = some (token, rest)) :
    readScalar floats points = some (ofNumber floats token, rest) := by
  obtain ⟨first, others, rfl, starts⟩ := scanNumber_head scanned
  have noWord : forall letter : CodePoint, isDigit letter = false -> letter ≠ char '-' ->
      forall word, literal (letter :: word) (first :: others) = none := by
    intro letter notDigit notMinus word
    apply literal_differs
    rintro rfl
    rcases starts with digit | minus
    · exact Bool.false_ne_true (notDigit.symm.trans digit)
    · exact notMinus minus
  have noNull : literal (text "null") (first :: others) = none :=
    noWord (char 'n') (by decide) (by decide) _
  have noTrue : literal (text "true") (first :: others) = none :=
    noWord (char 't') (by decide) (by decide) _
  have noFalse : literal (text "false") (first :: others) = none :=
    noWord (char 'f') (by decide) (by decide) _
  unfold readScalar
  rw [noNull, noTrue, noFalse, scanned]
  rfl

theorem readScalar_nan (rest : Text) :
    readScalar floats (text "NaN" ++ rest) = some (.float (floats.read (text "NaN")), rest) := by
  have noNumber : scanNumber (text "NaN" ++ rest) = none := rfl
  unfold readScalar
  rw [noNumber, literal_append]
  rfl

theorem readScalar_infinity (rest : Text) :
    readScalar floats (text "Infinity" ++ rest) =
      some (.float (floats.read (text "Infinity")), rest) := by
  have noNumber : scanNumber (text "Infinity" ++ rest) = none := rfl
  unfold readScalar
  rw [noNumber, literal_append]
  rfl

theorem readScalar_negativeInfinity (rest : Text) :
    readScalar floats (text "-Infinity" ++ rest) =
      some (.float (floats.read (text "-Infinity")), rest) := by
  have noNumber : scanNumber (text "-Infinity" ++ rest) = none := rfl
  unfold readScalar
  rw [noNumber, literal_append]
  rfl

/-- A written float is read back. -/
theorem readScalar_write_float
    (lawful : floats.Lawful)
    (value : Double)
    {rest : Text}
    (stops : Stops rest) :
    readScalar floats (floats.write value ++ rest) = some (.float value, rest) := by
  have back := lawful.read_write value
  rcases lawful.written value with word | ⟨token, scanned, isFloat, whole⟩
  · simp only [List.mem_cons, List.not_mem_nil, or_false] at word
    rcases word with word | word | word
    · rw [word] at back ⊢
      rw [readScalar_nan, back]
    · rw [word] at back ⊢
      rw [readScalar_infinity, back]
    · rw [word] at back ⊢
      rw [readScalar_negativeInfinity, back]
  · rw [readScalar_number (scanNumber_append stops scanned), ofNumber, if_neg isFloat, whole, back]
    rfl

theorem readScalar_write_int
    (value : Int)
    {rest : Text}
    (stops : Stops rest) :
    readScalar floats (printInt value ++ rest) = some (.int value, rest) := by
  rw [readScalar_number (scanNumber_append stops (scanNumber_printInt value)), ofNumber,
    if_pos ⟨rfl, rfl⟩, readInt_printInt]
  rfl

/-- The first character of a scalar that is no string. -/
structure ScalarStart (first : CodePoint) : Prop where
  notQuote : first ≠ char '"'
  notArray : first ≠ char '['
  notObject : first ≠ char '\x7b'
  notSpace : first ∉ ([32, 9, 10, 13] : Text)
  notClosing : first ≠ char ']'

instance (first : CodePoint) : Decidable (ScalarStart first) :=
  decidable_of_iff (first ≠ char '"' ∧ first ≠ char '[' ∧ first ≠ char '\x7b' ∧
      first ∉ ([32, 9, 10, 13] : Text) ∧ first ≠ char ']')
    ⟨fun ⟨quote, bracket, brace, space, closing⟩ => ⟨quote, bracket, brace, space, closing⟩,
      fun start => ⟨start.notQuote, start.notArray, start.notObject, start.notSpace,
        start.notClosing⟩⟩

theorem scalarStart_of_number
    {first : CodePoint}
    (starts : isDigit first = true ∨ first = char '-') :
    ScalarStart first := by
  have differs : forall letter : CodePoint, isDigit letter = false -> letter ≠ char '-' ->
      first ≠ letter := by
    rintro _ notDigit notMinus rfl
    rcases starts with digit | minus
    · exact Bool.false_ne_true (notDigit.symm.trans digit)
    · exact notMinus minus
  refine ⟨differs _ (by decide) (by decide), differs _ (by decide) (by decide),
    differs _ (by decide) (by decide), ?_, differs _ (by decide) (by decide)⟩
  simp only [List.mem_cons, List.not_mem_nil, or_false, not_or]
  exact ⟨differs _ (by decide) (by decide), differs _ (by decide) (by decide),
    differs _ (by decide) (by decide), differs _ (by decide) (by decide)⟩

theorem write_float_start (lawful : floats.Lawful) (value : Double) :
    Exists fun first => Exists fun rest =>
      floats.write value = first :: rest ∧ ScalarStart first := by
  rcases lawful.written value with word | ⟨token, scanned, _, _⟩
  · simp only [List.mem_cons, List.not_mem_nil, or_false] at word
    rcases word with word | word | word
    · exact ⟨char 'N', text "aN", word, by decide⟩
    · exact ⟨char 'I', text "nfinity", word, by decide⟩
    · exact ⟨char '-', text "Infinity", word, by decide⟩
  · obtain ⟨first, rest, same, starts⟩ := scanNumber_head scanned
    exact ⟨first, rest, same, scalarStart_of_number starts⟩

theorem printInt_start (value : Int) :
    Exists fun first => Exists fun rest => printInt value = first :: rest ∧ ScalarStart first := by
  obtain ⟨first, rest, same, starts⟩ := scanNumber_head (scanNumber_printInt value)
  exact ⟨first, rest, same, scalarStart_of_number starts⟩

theorem readValue_scalar
    {points rest : Text}
    {document : Document Double}
    {fuel : Nat}
    (start : Exists fun first => Exists fun others =>
      points = first :: others ∧ ScalarStart first)
    (enough : points.length ≤ fuel)
    (isScalar : readScalar floats (points ++ rest) = some (document, rest)) :
    readValue floats fuel (points ++ rest) = some (document, rest) := by
  obtain ⟨first, others, rfl, starts⟩ := start
  cases fuel with
  | zero => exact absurd enough (by simp)
  | succ fuel =>
      rw [List.cons_append] at isScalar ⊢
      rw [readValue, if_neg starts.notQuote, if_neg starts.notArray, if_neg starts.notObject,
        isScalar]

/-- The text of a document starts a value. -/
theorem write_head (lawful : floats.Lawful) (document : Document Double) :
    Exists fun first => Exists fun rest => write floats document = first :: rest ∧
      first ∉ ([32, 9, 10, 13] : Text) ∧ first ≠ char ']' := by
  have scalar : forall {points : Text}, (Exists fun first => Exists fun rest =>
      points = first :: rest ∧ ScalarStart first) ->
      Exists fun first => Exists fun rest => points = first :: rest ∧
        first ∉ ([32, 9, 10, 13] : Text) ∧ first ≠ char ']' := by
    rintro _ ⟨first, rest, same, start⟩
    exact ⟨first, rest, same, start.notSpace, start.notClosing⟩
  cases document with
  | null => exact scalar ⟨char 'n', text "ull", rfl, by decide⟩
  | bool value =>
      cases value with
      | false => exact scalar ⟨char 'f', text "alse", rfl, by decide⟩
      | true => exact scalar ⟨char 't', text "rue", rfl, by decide⟩
  | int value => exact scalar (printInt_start value)
  | float value => exact scalar (write_float_start lawful value)
  | string value => exact ⟨char '"', _, rfl, by decide, by decide⟩
  | array values =>
      cases values with
      | nil => exact ⟨char '[', _, rfl, by decide, by decide⟩
      | cons value values => exact ⟨char '[', _, rfl, by decide, by decide⟩
  | object entries =>
      cases entries with
      | nil => exact ⟨char '\x7b', _, rfl, by decide, by decide⟩
      | cons entry entries => exact ⟨char '\x7b', _, rfl, by decide, by decide⟩

theorem writeValues_head (floats : FloatFormat Double) (values : List (Document Double)) :
    Exists fun first => Exists fun rest => writeValues floats values = first :: rest ∧
      first ∈ ([char ',', char ']'] : Text) := by
  cases values with
  | nil => exact ⟨char ']', [], by rw [writeValues], by decide⟩
  | cons value values => exact ⟨char ',', _, by rw [writeValues, List.cons_append], by decide⟩

theorem writeEntries_head
    (floats : FloatFormat Double)
    (entries : List (Text × Document Double)) :
    Exists fun first => Exists fun rest => writeEntries floats entries = first :: rest ∧
      first ∈ ([char ',', char '\x7d'] : Text) := by
  cases entries with
  | nil => exact ⟨char '\x7d', [], by rw [writeEntries], by decide⟩
  | cons entry entries => exact ⟨char ',', _, by rw [writeEntries]; rfl, by decide⟩

theorem ends_writeValues (values : List (Document Double)) (rest : Text) :
    Ends (writeValues floats values ++ rest) := by
  obtain ⟨first, others, same, closes⟩ := writeValues_head floats values
  rw [same]
  refine ends_cons ?_ _
  simp only [List.mem_cons, List.not_mem_nil, or_false] at closes ⊢
  rcases closes with comma | bracket
  · exact Or.inl comma
  · exact Or.inr (Or.inl bracket)

theorem ends_writeEntries (entries : List (Text × Document Double)) (rest : Text) :
    Ends (writeEntries floats entries ++ rest) := by
  obtain ⟨first, others, same, closes⟩ := writeEntries_head floats entries
  rw [same]
  refine ends_cons ?_ _
  simp only [List.mem_cons, List.not_mem_nil, or_false] at closes ⊢
  rcases closes with comma | brace
  · exact Or.inl comma
  · exact Or.inr (Or.inr brace)

theorem skipSpace_write
    (lawful : floats.Lawful)
    (document : Document Double)
    (rest : Text) :
    skipSpace (write floats document ++ rest) = write floats document ++ rest := by
  obtain ⟨first, others, same, notSpace, _⟩ := write_head lawful document
  rw [same, List.cons_append, skipSpace_cons notSpace]

/-- The written text of the document is read back with enough fuel, up to the end of an
element. -/
def ReadsBack (floats : FloatFormat Double) (document : Document Double) : Prop :=
  forall (fuel : Nat) (rest : Text), Ends rest -> (write floats document).length ≤ fuel ->
    readValue floats fuel (write floats document ++ rest) = some (document, rest)

/-- One value after another is read back. -/
theorem readValues_writeValues
    (lawful : floats.Lawful)
    {values : List (Document Double)}
    (readBack : forall value, value ∈ values -> ReadsBack floats value)
    {fuel : Nat}
    (enough : (writeValues floats values).length ≤ fuel)
    (rest : Text) :
    readValues floats fuel (writeValues floats values ++ rest) = some (values, rest) := by
  induction values generalizing fuel with
  | nil =>
      cases fuel with
      | zero => exact absurd enough (by simp [writeValues])
      | succ fuel =>
          rw [writeValues, readValues, List.singleton_append, skipSpace_cons (by decide)]
          exact if_pos rfl
  | cons value values inductionHypothesis =>
      obtain ⟨valueBack, valuesBack⟩ := List.forall_mem_cons.mp readBack
      cases fuel with
      | zero => exact absurd enough (by simp [writeValues])
      | succ fuel =>
          rw [writeValues, List.length_append, List.length_cons] at enough
          have layout : writeValues floats (value :: values) ++ rest =
              char ',' :: (write floats value ++ (writeValues floats values ++ rest)) := by
            simp [writeValues]
          rw [layout, readValues, skipSpace_cons (by decide)]
          simp only [if_neg (show char ',' ≠ char ']' by decide), if_true]
          rw [skipSpace_write lawful,
            valueBack fuel _ (ends_writeValues values rest) (by omega), Option.bind_some]
          simp only [inductionHypothesis valuesBack (by omega : (writeValues floats values).length ≤ fuel),
            Option.map_some]

theorem quoted_append (key rest : Text) :
    quoted key ++ rest = char '"' :: (escapeCharacters key ++ char '"' :: rest) := by
  simp [quoted]

/-- A written key and its value are read back. -/
theorem readEntry_write
    (lawful : floats.Lawful)
    {value : Document Double}
    (readBack : ReadsBack floats value)
    {fuel : Nat}
    (key : Text)
    {rest : Text}
    (ends : Ends rest)
    (enough : (quoted key).length + (write floats value).length < fuel) :
    readEntry floats fuel (quoted key ++ char ':' :: (write floats value ++ rest)) =
      some ((key, value), rest) := by
  cases fuel with
  | zero => exact absurd enough (Nat.not_lt_zero _)
  | succ fuel =>
      rw [quoted_append, readEntry, if_pos rfl, scanString_quoted, Option.bind_some]
      simp only
      rw [skipSpace_cons (by decide), if_pos List.head?_cons, List.tail_cons,
        skipSpace_write lawful, readBack fuel rest ends (by omega)]
      rfl

/-- One entry after another is read back. -/
theorem readEntries_writeEntries
    (lawful : floats.Lawful)
    {entries : List (Text × Document Double)}
    (readBack : forall entry, entry ∈ entries -> ReadsBack floats entry.2)
    {fuel : Nat}
    (enough : (writeEntries floats entries).length ≤ fuel)
    (rest : Text) :
    readEntries floats fuel (writeEntries floats entries ++ rest) = some (entries, rest) := by
  induction entries generalizing fuel with
  | nil =>
      cases fuel with
      | zero => exact absurd enough (by simp [writeEntries])
      | succ fuel =>
          rw [writeEntries, readEntries, List.singleton_append, skipSpace_cons (by decide)]
          exact if_pos rfl
  | cons entry entries inductionHypothesis =>
      obtain ⟨key, value⟩ := entry
      have valueBack : ReadsBack floats value := readBack _ List.mem_cons_self
      have valuesBack : forall entry, entry ∈ entries -> ReadsBack floats entry.2 :=
        fun entry member => readBack entry (List.mem_cons_of_mem _ member)
      cases fuel with
      | zero => exact absurd enough (by simp [writeEntries])
      | succ fuel =>
          simp only [writeEntries, List.length_append, List.length_cons] at enough
          have layout : writeEntries floats ((key, value) :: entries) ++ rest =
              char ',' :: (quoted key ++ char ':' :: (write floats value ++
                (writeEntries floats entries ++ rest))) := by
            simp [writeEntries]
          rw [layout, readEntries, skipSpace_cons (by decide)]
          simp only [if_neg (show char ',' ≠ char '\x7d' by decide), if_true]
          rw [quoted_append, skipSpace_cons (by decide), ← quoted_append,
            readEntry_write lawful valueBack key (ends_writeEntries entries rest) (by omega),
            Option.bind_some]
          simp only [inductionHypothesis valuesBack
            (by omega : (writeEntries floats entries).length ≤ fuel), Option.map_some]

theorem readsBack_array
    (lawful : floats.Lawful)
    (values : List (Document Double))
    (readBack : forall value, value ∈ values -> ReadsBack floats value) :
    ReadsBack floats (.array values) := by
  intro fuel rest ends enough
  cases fuel with
  | zero =>
      obtain ⟨first, others, same, _⟩ := write_head lawful (.array values)
      rw [same] at enough
      exact absurd enough (by simp)
  | succ fuel =>
      cases values with
      | nil => rfl
      | cons value values =>
          obtain ⟨valueBack, valuesBack⟩ := List.forall_mem_cons.mp readBack
          obtain ⟨first, others, same, notSpace, notClosing⟩ := write_head lawful value
          simp only [write, List.length_append, List.length_cons] at enough
          have layout : write floats (.array (value :: values)) ++ rest =
              char '[' :: (write floats value ++ (writeValues floats values ++ rest)) := by
            simp [write]
          have noClosing : ¬(write floats value ++ (writeValues floats values ++ rest)).head? =
              some (char ']') := by
            rw [same]
            exact fun closing => notClosing (Option.some.inj closing)
          rw [layout, readValue, if_neg (by decide), if_pos rfl, skipSpace_write lawful,
            if_neg noClosing, valueBack fuel _ (ends_writeValues values rest) (by omega),
            Option.bind_some]
          simp only [readValues_writeValues lawful valuesBack
            (by omega : (writeValues floats values).length ≤ fuel), Option.map_some]

/-- A written object is read back, whatever follows it. -/
theorem readValue_write_object
    (lawful : floats.Lawful)
    {entries : List (Text × Document Double)}
    (readBack : forall entry, entry ∈ entries -> ReadsBack floats entry.2)
    {fuel : Nat}
    (enough : (write floats (.object entries)).length ≤ fuel)
    (rest : Text) :
    readValue floats fuel (write floats (.object entries) ++ rest) =
      some (.object entries, rest) := by
  cases fuel with
  | zero =>
      obtain ⟨first, others, same, _⟩ := write_head lawful (.object entries)
      rw [same] at enough
      exact absurd enough (by simp)
  | succ fuel =>
      cases entries with
      | nil => rfl
      | cons entry entries =>
          obtain ⟨key, value⟩ := entry
          have valueBack : ReadsBack floats value := readBack _ List.mem_cons_self
          have valuesBack : forall entry, entry ∈ entries -> ReadsBack floats entry.2 :=
            fun entry member => readBack entry (List.mem_cons_of_mem _ member)
          simp only [write, List.length_append, List.length_cons] at enough
          have layout : write floats (.object ((key, value) :: entries)) ++ rest =
              char '\x7b' :: (quoted key ++ char ':' :: (write floats value ++
                (writeEntries floats entries ++ rest))) := by
            simp [write]
          have noClosing : forall points : Text,
              ¬(quoted key ++ points).head? = some (char '\x7d') := by
            intro points closing
            rw [quoted_append] at closing
            exact absurd (Option.some.inj closing) (by decide)
          rw [layout, readValue, if_neg (by decide), if_neg (by decide), if_pos rfl,
            quoted_append, skipSpace_cons (by decide), ← quoted_append,
            if_neg (noClosing _),
            readEntry_write lawful valueBack key (ends_writeEntries entries rest) (by omega),
            Option.bind_some]
          simp only [readEntries_writeEntries lawful valuesBack
            (by omega : (writeEntries floats entries).length ≤ fuel), Option.map_some]

theorem readsBack_object
    (lawful : floats.Lawful)
    (entries : List (Text × Document Double))
    (readBack : forall entry, entry ∈ entries -> ReadsBack floats entry.2) :
    ReadsBack floats (.object entries) :=
  fun _ rest _ enough => readValue_write_object lawful readBack enough rest

/-- Every written document is read back. -/
theorem readsBack (lawful : floats.Lawful) (document : Document Double) :
    ReadsBack floats document := by
  induction document using Document.induction with
  | null => exact fun fuel rest _ enough => readValue_scalar ⟨_, _, rfl, by decide⟩ enough rfl
  | bool value =>
      cases value with
      | false => exact fun fuel rest _ enough => readValue_scalar ⟨_, _, rfl, by decide⟩ enough rfl
      | true => exact fun fuel rest _ enough => readValue_scalar ⟨_, _, rfl, by decide⟩ enough rfl
  | int value =>
      exact fun fuel rest ends enough =>
        readValue_scalar (printInt_start value) enough (readScalar_write_int value ends.stops)
  | float value =>
      exact fun fuel rest ends enough =>
        readValue_scalar (write_float_start lawful value) enough
          (readScalar_write_float lawful value ends.stops)
  | string value =>
      intro fuel rest _ enough
      cases fuel with
      | zero => exact absurd enough (by simp [write, quoted])
      | succ fuel =>
          rw [write, quoted_append, readValue, if_pos rfl, scanString_quoted]
          rfl
  | array values inductionHypothesis => exact readsBack_array lawful values inductionHypothesis
  | object entries inductionHypothesis => exact readsBack_object lawful entries inductionHypothesis

end Document
end Library
end LakehouseOps
