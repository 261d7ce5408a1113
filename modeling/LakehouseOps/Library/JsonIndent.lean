import LakehouseOps.Library.JsonEscapes

/-!
# Indented documents

Documents in ASCII with a line for each element of an array or object. They are read back
in the form that has the keys sorted.
-/

namespace LakehouseOps
namespace Library
namespace Document

variable {Double : Type} {floats : FloatFormat Double}

/-! ## Writing -/

/-- A new line with an indentation of two for each level. -/
def newline (level : Nat) : Text :=
  10 :: List.replicate (2 * level) 32

mutual

/-- The text of a document inside as many arrays and objects as there are levels. -/
def writeIndented (floats : FloatFormat Double) (level : Nat) : Document Double -> Text
  | .null => text "null"
  | .bool true => text "true"
  | .bool false => text "false"
  | .int value => printInt value
  | .float value => floats.write value
  | .string value => asciiQuoted value
  | .array [] => text "[]"
  | .array (value :: values) =>
      char '[' :: newline (level + 1) ++ writeIndented floats (level + 1) value ++
        writeIndentedValues floats level values
  | .object [] => [char '\x7b', char '\x7d']
  | .object ((key, value) :: entries) =>
      char '\x7b' :: newline (level + 1) ++ asciiQuoted key ++ [char ':', 32] ++
        writeIndented floats (level + 1) value ++ writeIndentedEntries floats level entries

/-- The values after the first one of an array. -/
def writeIndentedValues (floats : FloatFormat Double) (level : Nat) :
    List (Document Double) -> Text
  | [] => newline level ++ [char ']']
  | value :: values =>
      char ',' :: newline (level + 1) ++ writeIndented floats (level + 1) value ++
        writeIndentedValues floats level values

/-- The entries after the first one of an object. -/
def writeIndentedEntries (floats : FloatFormat Double) (level : Nat) :
    List (Text × Document Double) -> Text
  | [] => newline level ++ [char '\x7d']
  | (key, value) :: entries =>
      char ',' :: newline (level + 1) ++ asciiQuoted key ++ [char ':', 32] ++
        writeIndented floats (level + 1) value ++ writeIndentedEntries floats level entries

end

/-! ## What is written is read back -/

theorem skipSpace_newline (level : Nat) (rest : Text) :
    skipSpace (newline level ++ rest) = skipSpace rest := by
  unfold skipSpace newline
  apply List.dropWhile_append_of_pos
  intro point member
  rcases List.mem_cons.mp member with rfl | space
  · rfl
  · rw [List.eq_of_mem_replicate space]
    rfl

theorem stops_newline (level : Nat) (rest : Text) : Stops (newline level ++ rest) :=
  stops_cons (by decide) (by decide) _

theorem asciiQuoted_append (points rest : Text) :
    asciiQuoted points ++ rest =
      char '"' :: (points.flatMap asciiCharacter ++ char '"' :: rest) := by
  simp [asciiQuoted]

/-- The text of a document starts a value. -/
theorem writeIndented_head
    (lawful : floats.Lawful)
    (level : Nat)
    (document : Document Double) :
    Exists fun first => Exists fun rest => writeIndented floats level document = first :: rest ∧
      first ∉ ([32, 9, 10, 13] : Text) ∧ first ≠ char ']' := by
  have scalar : forall {points : Text}, (Exists fun first => Exists fun rest =>
      points = first :: rest ∧ ScalarStart first) ->
      Exists fun first => Exists fun rest => points = first :: rest ∧
        first ∉ ([32, 9, 10, 13] : Text) ∧ first ≠ char ']' := by
    rintro _ ⟨first, rest, same, start⟩
    exact ⟨first, rest, same, start.notSpace, start.notClosing⟩
  cases document with
  | null => exact scalar ⟨char 'n', text "ull", rfl, by decide⟩
  | bool value =>
      cases value with
      | false => exact scalar ⟨char 'f', text "alse", rfl, by decide⟩
      | true => exact scalar ⟨char 't', text "rue", rfl, by decide⟩
  | int value => exact scalar (printInt_start value)
  | float value => exact scalar (write_float_start lawful value)
  | string value => exact ⟨char '"', _, rfl, by decide, by decide⟩
  | array values =>
      cases values with
      | nil => exact ⟨char '[', _, rfl, by decide, by decide⟩
      | cons value values => exact ⟨char '[', _, rfl, by decide, by decide⟩
  | object entries =>
      cases entries with
      | nil => exact ⟨char '\x7b', _, rfl, by decide, by decide⟩
      | cons entry entries => exact ⟨char '\x7b', _, rfl, by decide, by decide⟩

theorem skipSpace_writeIndented
    (lawful : floats.Lawful)
    (level : Nat)
    (document : Document Double)
    (rest : Text) :
    skipSpace (writeIndented floats level document ++ rest) =
      writeIndented floats level document ++ rest := by
  obtain ⟨first, others, same, notSpace, _⟩ := writeIndented_head lawful level document
  rw [same, List.cons_append, skipSpace_cons notSpace]

/-- The written text of the document is read back with enough fuel at every level, up to
where no number goes on. -/
def ReadsBackIndented (floats : FloatFormat Double) (document : Document Double) : Prop :=
  forall (level fuel : Nat) (rest : Text), Stops rest ->
    (writeIndented floats level document).length ≤ fuel ->
      readValue floats fuel (writeIndented floats level document ++ rest) = some (document, rest)

theorem stops_writeIndentedValues (level : Nat) (values : List (Document Double)) (rest : Text) :
    Stops (writeIndentedValues floats level values ++ rest) := by
  cases values with
  | nil =>
      rw [writeIndentedValues, List.append_assoc]
      exact stops_newline level _
  | cons value values =>
      rw [writeIndentedValues]
      exact stops_cons (by decide) (by decide) _

theorem stops_writeIndentedEntries
    (level : Nat)
    (entries : List (Text × Document Double))
    (rest : Text) :
    Stops (writeIndentedEntries floats level entries ++ rest) := by
  cases entries with
  | nil =>
      rw [writeIndentedEntries, List.append_assoc]
      exact stops_newline level _
  | cons entry entries =>
      rw [writeIndentedEntries]
      exact stops_cons (by decide) (by decide) _

/-- One value after another is read back. -/
theorem readValues_writeIndentedValues
    (lawful : floats.Lawful)
    {values : List (Document Double)}
    (readBack : forall value, value ∈ values -> ReadsBackIndented floats value)
    {level fuel : Nat}
    (enough : (writeIndentedValues floats level values).length ≤ fuel)
    (rest : Text) :
    readValues floats fuel (writeIndentedValues floats level values ++ rest) =
      some (values, rest) := by
  induction values generalizing fuel with
  | nil =>
      cases fuel with
      | zero => exact absurd enough (by simp [writeIndentedValues])
      | succ fuel =>
          rw [writeIndentedValues, readValues, List.append_assoc, skipSpace_newline,
            List.singleton_append, skipSpace_cons (by decide)]
          exact if_pos rfl
  | cons value values inductionHypothesis =>
      obtain ⟨valueBack, valuesBack⟩ := List.forall_mem_cons.mp readBack
      cases fuel with
      | zero => exact absurd enough (by simp [writeIndentedValues])
      | succ fuel =>
          simp only [writeIndentedValues, List.length_append, List.length_cons] at enough
          have layout : writeIndentedValues floats level (value :: values) ++ rest =
              char ',' :: (newline (level + 1) ++ (writeIndented floats (level + 1) value ++
                (writeIndentedValues floats level values ++ rest))) := by
            simp [writeIndentedValues]
          rw [layout, readValues, skipSpace_cons (by decide)]
          simp only [if_neg (show char ',' ≠ char ']' by decide), if_true]
          rw [skipSpace_newline, skipSpace_writeIndented lawful,
            valueBack (level + 1) fuel _ (stops_writeIndentedValues level values rest) (by omega),
            Option.bind_some]
          simp only [inductionHypothesis valuesBack
            (by omega : (writeIndentedValues floats level values).length ≤ fuel), Option.map_some]

/-- A written key and its value are read back. -/
theorem readEntry_writeIndented
    (lawful : floats.Lawful)
    {value : Document Double}
    (readBack : ReadsBackIndented floats value)
    {level fuel : Nat}
    {key : Text}
    (joined : Joined key)
    {rest : Text}
    (stops : Stops rest)
    (enough : (asciiQuoted key).length + (writeIndented floats level value).length < fuel) :
    readEntry floats fuel (asciiQuoted key ++ char ':' :: 32 ::
      (writeIndented floats level value ++ rest)) = some ((key, value), rest) := by
  cases fuel with
  | zero => exact absurd enough (Nat.not_lt_zero _)
  | succ fuel =>
      have spaced : skipSpace (32 :: (writeIndented floats level value ++ rest)) =
          writeIndented floats level value ++ rest :=
        skipSpace_writeIndented lawful level value rest
      rw [asciiQuoted_append, readEntry, if_pos rfl, scanString_asciiQuoted joined,
        Option.bind_some]
      simp only
      rw [skipSpace_cons (by decide), if_pos List.head?_cons, List.tail_cons, spaced,
        readBack level fuel rest stops (by omega)]
      rfl

/-- One entry after another is read back. -/
theorem readEntries_writeIndentedEntries
    (lawful : floats.Lawful)
    {entries : List (Text × Document Double)}
    (joined : forall entry, entry ∈ entries -> Joined entry.1)
    (readBack : forall entry, entry ∈ entries -> ReadsBackIndented floats entry.2)
    {level fuel : Nat}
    (enough : (writeIndentedEntries floats level entries).length ≤ fuel)
    (rest : Text) :
    readEntries floats fuel (writeIndentedEntries floats level entries ++ rest) =
      some (entries, rest) := by
  induction entries generalizing fuel with
  | nil =>
      cases fuel with
      | zero => exact absurd enough (by simp [writeIndentedEntries])
      | succ fuel =>
          rw [writeIndentedEntries, readEntries, List.append_assoc, skipSpace_newline,
            List.singleton_append, skipSpace_cons (by decide)]
          exact if_pos rfl
  | cons entry entries inductionHypothesis =>
      obtain ⟨key, value⟩ := entry
      have joinedKey : Joined key := joined _ List.mem_cons_self
      have joinedKeys := (List.forall_mem_cons.mp joined).2
      have valueBack : ReadsBackIndented floats value := readBack _ List.mem_cons_self
      have valuesBack := (List.forall_mem_cons.mp readBack).2
      cases fuel with
      | zero => exact absurd enough (by simp [writeIndentedEntries])
      | succ fuel =>
          simp only [writeIndentedEntries, List.length_append, List.length_cons] at enough
          have layout : writeIndentedEntries floats level ((key, value) :: entries) ++ rest =
              char ',' :: (newline (level + 1) ++ (asciiQuoted key ++ char ':' :: 32 ::
                (writeIndented floats (level + 1) value ++
                  (writeIndentedEntries floats level entries ++ rest)))) := by
            simp [writeIndentedEntries]
          rw [layout, readEntries, skipSpace_cons (by decide)]
          simp only [if_neg (show char ',' ≠ char '\x7d' by decide), if_true]
          rw [skipSpace_newline, asciiQuoted_append, skipSpace_cons (by decide),
            ← asciiQuoted_append, readEntry_writeIndented lawful valueBack joinedKey
              (stops_writeIndentedEntries level entries rest) (by omega), Option.bind_some]
          simp only [inductionHypothesis joinedKeys valuesBack
            (by omega : (writeIndentedEntries floats level entries).length ≤ fuel),
            Option.map_some]

theorem readsBackIndented_array
    (lawful : floats.Lawful)
    (values : List (Document Double))
    (readBack : forall value, value ∈ values -> ReadsBackIndented floats value) :
    ReadsBackIndented floats (.array values) := by
  intro level fuel rest stops enough
  cases fuel with
  | zero =>
      obtain ⟨first, others, same, _⟩ := writeIndented_head lawful level (.array values)
      rw [same] at enough
      exact absurd enough (by simp)
  | succ fuel =>
      cases values with
      | nil => rfl
      | cons value values =>
          obtain ⟨valueBack, valuesBack⟩ := List.forall_mem_cons.mp readBack
          obtain ⟨first, others, same, notSpace, notClosing⟩ :=
            writeIndented_head lawful (level + 1) value
          simp only [writeIndented, List.length_append, List.length_cons] at enough
          have layout : writeIndented floats level (.array (value :: values)) ++ rest =
              char '[' :: (newline (level + 1) ++ (writeIndented floats (level + 1) value ++
                (writeIndentedValues floats level values ++ rest))) := by
            simp [writeIndented]
          have noClosing : ¬(writeIndented floats (level + 1) value ++
              (writeIndentedValues floats level values ++ rest)).head? = some (char ']') := by
            rw [same]
            exact fun closing => notClosing (Option.some.inj closing)
          rw [layout, readValue, if_neg (by decide), if_pos rfl, skipSpace_newline,
            skipSpace_writeIndented lawful, if_neg noClosing,
            valueBack (level + 1) fuel _ (stops_writeIndentedValues level values rest) (by omega),
            Option.bind_some]
          simp only [readValues_writeIndentedValues lawful valuesBack
            (by omega : (writeIndentedValues floats level values).length ≤ fuel), Option.map_some]

theorem readsBackIndented_object
    (lawful : floats.Lawful)
    (entries : List (Text × Document Double))
    (joined : forall entry, entry ∈ entries -> Joined entry.1)
    (readBack : forall entry, entry ∈ entries -> ReadsBackIndented floats entry.2) :
    ReadsBackIndented floats (.object entries) := by
  intro level fuel rest stops enough
  cases fuel with
  | zero =>
      obtain ⟨first, others, same, _⟩ := writeIndented_head lawful level (.object entries)
      rw [same] at enough
      exact absurd enough (by simp)
  | succ fuel =>
      cases entries with
      | nil => rfl
      | cons entry entries =>
          obtain ⟨key, value⟩ := entry
          have joinedKey : Joined key := joined _ List.mem_cons_self
          have joinedKeys := (List.forall_mem_cons.mp joined).2
          have valueBack : ReadsBackIndented floats value := readBack _ List.mem_cons_self
          have valuesBack := (List.forall_mem_cons.mp readBack).2
          simp only [writeIndented, List.length_append, List.length_cons] at enough
          have layout : writeIndented floats level (.object ((key, value) :: entries)) ++ rest =
              char '\x7b' :: (newline (level + 1) ++ (asciiQuoted key ++ char ':' :: 32 ::
                (writeIndented floats (level + 1) value ++
                  (writeIndentedEntries floats level entries ++ rest)))) := by
            simp [writeIndented]
          have noClosing : forall points : Text,
              ¬(asciiQuoted key ++ points).head? = some (char '\x7d') := by
            intro points closing
            rw [asciiQuoted_append] at closing
            exact absurd (Option.some.inj closing) (by decide)
          rw [layout, readValue, if_neg (by decide), if_neg (by decide), if_pos rfl,
            skipSpace_newline, asciiQuoted_append, skipSpace_cons (by decide),
            ← asciiQuoted_append, if_neg (noClosing _),
            readEntry_writeIndented lawful valueBack joinedKey
              (stops_writeIndentedEntries level entries rest) (by omega), Option.bind_some]
          simp only [readEntries_writeIndentedEntries lawful joinedKeys valuesBack
            (by omega : (writeIndentedEntries floats level entries).length ≤ fuel),
            Option.map_some]

/-- A document with joined texts is read back. -/
theorem readsBackIndented
    (lawful : floats.Lawful)
    {document : Document Double}
    (joined : JoinedTexts document) :
    ReadsBackIndented floats document := by
  induction joined with
  | null => exact fun _ _ _ _ enough => readValue_scalar ⟨_, _, rfl, by decide⟩ enough rfl
  | bool value =>
      cases value with
      | false => exact fun _ _ _ _ enough => readValue_scalar ⟨_, _, rfl, by decide⟩ enough rfl
      | true => exact fun _ _ _ _ enough => readValue_scalar ⟨_, _, rfl, by decide⟩ enough rfl
  | int value =>
      exact fun _ _ _ stops enough =>
        readValue_scalar (printInt_start value) enough (readScalar_write_int value stops)
  | float value =>
      exact fun _ _ _ stops enough =>
        readValue_scalar (write_float_start lawful value) enough
          (readScalar_write_float lawful value stops)
  | string joined =>
      intro level fuel rest _ enough
      cases fuel with
      | zero => exact absurd enough (by simp [writeIndented, asciiQuoted])
      | succ fuel =>
          rw [writeIndented, asciiQuoted_append, readValue, if_pos rfl,
            scanString_asciiQuoted joined]
          rfl
  | array each inductionHypothesis => exact readsBackIndented_array lawful _ inductionHypothesis
  | object keys each inductionHypothesis =>
      exact readsBackIndented_object lawful _ keys inductionHypothesis

/-! ## Loading -/

/-- `json.dumps(document, indent=2, sort_keys=True)` -/
def dumpsIndented (floats : FloatFormat Double) (document : Document Double) : Text :=
  writeIndented floats 0 (canonical document)

theorem joinedTexts_canonical
    {document : Document Double}
    (joined : JoinedTexts document) :
    JoinedTexts (canonical document) := by
  induction joined with
  | null => exact .null
  | bool value => exact .bool value
  | int value => exact .int value
  | float value => exact .float value
  | string joined => exact .string joined
  | array each inductionHypothesis =>
      rw [canonical_array]
      refine .array fun value member => ?_
      obtain ⟨original, isOriginal, rfl⟩ := List.mem_map.mp member
      exact inductionHypothesis original isOriginal
  | object keys each inductionHypothesis =>
      rw [canonical_object, canonicalFields]
      refine .object (fun entry member => ?_) fun entry member => ?_
      · obtain ⟨original, isOriginal, rfl⟩ :=
          List.mem_map.mp ((sortEntries_perm _).mem_iff.mp member)
        exact keys original isOriginal
      · obtain ⟨original, isOriginal, rfl⟩ :=
          List.mem_map.mp ((sortEntries_perm _).mem_iff.mp member)
        exact inductionHypothesis original isOriginal

/-- A dumped document with a new line after it is loaded back in its canonical form. -/
theorem loads_dumpsIndented
    (lawful : floats.Lawful)
    {document : Document Double}
    (wellFormed : WellFormed document)
    (joined : JoinedTexts document) :
    loads floats (dumpsIndented floats document ++ [10]) = some (canonical document) := by
  have back := readsBackIndented lawful (joinedTexts_canonical joined) 0
    (dumpsIndented floats document ++ [10]).length [10] (stops_cons (by decide) (by decide) _)
    (by rw [List.length_append]; exact Nat.le_add_right _ _)
  unfold dumpsIndented at back ⊢
  rw [loads, skipSpace_writeIndented lawful, back, Option.bind_some]
  change some (uniqueKeys (canonical document)) = some (canonical document)
  rw [uniqueKeys_eq_self (wellFormed_canonical wellFormed)]

/-! ## Characters -/

/-- A text of ASCII characters, without the null character. -/
def Ascii (points : Text) : Prop :=
  forall point, point ∈ points -> 0 < point.val ∧ point.val < 128

theorem ascii_append {left right : Text} : Ascii (left ++ right) ↔ Ascii left ∧ Ascii right :=
  List.forall_mem_append

theorem ascii_cons {point : CodePoint} {points : Text} :
    Ascii (point :: points) ↔ (0 < point.val ∧ point.val < 128) ∧ Ascii points :=
  List.forall_mem_cons

theorem ascii_nil : Ascii [] :=
  List.forall_mem_nil _

theorem ascii_text
    (string : String)
    (ascii : string.toList.all (fun character =>
      decide (0 < character.toNat) && decide (character.toNat < 128)) = true) :
    Ascii (text string) := by
  intro point member
  obtain ⟨character, isCharacter, rfl⟩ := List.mem_map.mp member
  have small := List.all_eq_true.mp ascii character isCharacter
  rw [Bool.and_eq_true, decide_eq_true_eq, decide_eq_true_eq] at small
  exact small

theorem ascii_hexDigit {value : Nat} (small : value < 16) :
    0 < (hexDigit value).val ∧ (hexDigit value).val < 128 := by
  revert small value
  decide

theorem ascii_unicodeEscape {code : Nat} (small : code < 0x10000) : Ascii (unicodeEscape code) := by
  have mark : Ascii [char '\\', char 'u'] := ascii_text "\\u" (by decide)
  refine ascii_append.mpr ⟨mark, ?_⟩
  exact ascii_cons.mpr ⟨ascii_hexDigit (by omega), ascii_cons.mpr ⟨ascii_hexDigit (by omega),
    ascii_cons.mpr ⟨ascii_hexDigit (by omega), ascii_cons.mpr ⟨ascii_hexDigit (by omega), ascii_nil⟩⟩⟩⟩

theorem ascii_asciiCharacter (point : CodePoint) : Ascii (asciiCharacter point) := by
  by_cases letter : point ∈ ([char '"', char '\\', 10, 13, 9, 12, 8] : Text)
  · simp only [List.mem_cons, List.not_mem_nil, or_false] at letter
    rcases letter with rfl | rfl | rfl | rfl | rfl | rfl | rfl
    · exact ascii_text "\\\"" (by decide)
    · exact ascii_text "\\\\" (by decide)
    · exact ascii_text "\\n" (by decide)
    · exact ascii_text "\\r" (by decide)
    · exact ascii_text "\\t" (by decide)
    · exact ascii_text "\\f" (by decide)
    · exact ascii_text "\\b" (by decide)
  · simp only [List.mem_cons, List.not_mem_nil, or_false, not_or] at letter
    obtain ⟨notQuote, notBackslash, notLine, notReturn, notTab, notForm, notBack⟩ := letter
    unfold asciiCharacter
    rw [if_neg notQuote, if_neg notBackslash, if_neg notLine, if_neg notReturn, if_neg notTab,
      if_neg notForm, if_neg notBack]
    split
    · next printable => exact ascii_cons.mpr ⟨by omega, ascii_nil⟩
    · split
      · next basic => exact ascii_unicodeEscape basic
      · next astral =>
          obtain ⟨high, low⟩ := surrogates_small astral
          exact ascii_append.mpr ⟨ascii_unicodeEscape high, ascii_unicodeEscape low⟩

theorem ascii_asciiQuoted (points : Text) : Ascii (asciiQuoted points) := by
  have quote : Ascii [char '"'] := ascii_text "\"" (by decide)
  refine ascii_append.mpr ⟨ascii_append.mpr ⟨quote, ?_⟩, quote⟩
  intro point member
  obtain ⟨original, _, isPart⟩ := List.mem_flatMap.mp member
  exact ascii_asciiCharacter original point isPart

theorem ascii_digits {points : Text} (digits : forall point, point ∈ points -> isDigit point = true) :
    Ascii points := by
  intro point member
  have digit := digits point member
  rw [isDigit, Bool.and_eq_true, decide_eq_true_eq, decide_eq_true_eq] at digit
  omega

theorem ascii_takeWhile_digits (points : Text) : Ascii (points.takeWhile isDigit) :=
  ascii_digits fun _ member => List.mem_takeWhile_imp member

theorem ascii_scanOptional {accepted : Text} (ascii : Ascii accepted) (points : Text) :
    Ascii (scanOptional accepted points).1 := by
  cases points with
  | nil => exact ascii_nil
  | cons first rest =>
      rw [scanOptional]
      split
      · next isAccepted => exact ascii_cons.mpr ⟨ascii first isAccepted, ascii_nil⟩
      · exact ascii_nil

theorem ascii_scanMarked
    {marks signs : Text}
    (asciiMarks : Ascii marks)
    (asciiSigns : Ascii signs)
    (points : Text) :
    Ascii (scanMarked marks signs points).1 := by
  cases points with
  | nil => exact ascii_nil
  | cons first rest =>
      rw [scanMarked]
      split
      · next marked =>
          exact ascii_append.mpr ⟨ascii_cons.mpr ⟨asciiMarks first marked.1,
            ascii_scanOptional asciiSigns rest⟩, ascii_takeWhile_digits _⟩
      · exact ascii_nil

/-- A number is in ASCII. -/
theorem ascii_scanNumber
    {points rest : Text}
    {token : NumberToken}
    (scanned : scanNumber points = some (token, rest)) :
    Ascii (token.integer ++ token.fraction ++ token.exponent) := by
  obtain ⟨⟨integer, after⟩, isInteger, same⟩ := Option.map_eq_some_iff.mp scanned
  rw [← (Prod.mk.inj same).1]
  have minus : Ascii [char '-'] := ascii_text "-" (by decide)
  have digits : Ascii integer := by
    cases unsigned : (scanOptional [char '-'] points).2 with
    | nil => rw [unsigned] at isInteger; exact absurd isInteger.symm (Option.some_ne_none _)
    | cons first others =>
        rw [unsigned, scanInteger] at isInteger
        split at isInteger
        · next zero =>
            rw [← (Prod.mk.inj (Option.some.inj isInteger)).1, zero]
            exact ascii_text "0" (by decide)
        · split at isInteger
          · next digit =>
              rw [← (Prod.mk.inj (Option.some.inj isInteger)).1]
              exact ascii_append.mpr ⟨ascii_digits (List.forall_mem_singleton.mpr digit),
                ascii_takeWhile_digits others⟩
          · exact absurd isInteger.symm (Option.some_ne_none _)
  exact ascii_append.mpr ⟨ascii_append.mpr
    ⟨ascii_append.mpr ⟨ascii_scanOptional minus points, digits⟩,
      ascii_scanMarked (ascii_text "." (by decide)) ascii_nil _⟩,
    ascii_scanMarked (ascii_text "eE" (by decide)) (ascii_text "-+" (by decide)) _⟩

theorem ascii_printInt (number : Int) : Ascii (printInt number) := by
  have same := ascii_scanNumber (scanNumber_printInt number)
  rwa [List.append_nil, List.append_nil] at same

theorem ascii_write_float (lawful : floats.Lawful) (value : Double) :
    Ascii (floats.write value) := by
  rcases lawful.written value with word | ⟨token, scanned, _, whole⟩
  · simp only [List.mem_cons, List.not_mem_nil, or_false] at word
    rcases word with word | word | word
    · rw [word]
      exact ascii_text "NaN" (by decide)
    · rw [word]
      exact ascii_text "Infinity" (by decide)
    · rw [word]
      exact ascii_text "-Infinity" (by decide)
  · rw [← whole]
    exact ascii_scanNumber scanned

theorem ascii_newline (level : Nat) : Ascii (newline level) := by
  intro point member
  rcases List.mem_cons.mp member with rfl | space
  · decide
  · rw [List.eq_of_mem_replicate space]
    decide

theorem ascii_writeIndentedValues
    {values : List (Document Double)}
    (each : forall value, value ∈ values -> forall level, Ascii (writeIndented floats level value))
    (level : Nat) :
    Ascii (writeIndentedValues floats level values) := by
  induction values with
  | nil =>
      rw [writeIndentedValues]
      exact ascii_append.mpr ⟨ascii_newline level, ascii_text "]" (by decide)⟩
  | cons value values inductionHypothesis =>
      obtain ⟨first, others⟩ := List.forall_mem_cons.mp each
      rw [writeIndentedValues]
      exact ascii_append.mpr ⟨ascii_append.mpr ⟨ascii_cons.mpr ⟨by decide, ascii_newline _⟩,
        first _⟩, inductionHypothesis others⟩

theorem ascii_writeIndentedEntries
    {entries : List (Text × Document Double)}
    (each : forall entry, entry ∈ entries ->
      forall level, Ascii (writeIndented floats level entry.2))
    (level : Nat) :
    Ascii (writeIndentedEntries floats level entries) := by
  induction entries with
  | nil =>
      rw [writeIndentedEntries]
      exact ascii_append.mpr ⟨ascii_newline level, ascii_text "\x7d" (by decide)⟩
  | cons entry entries inductionHypothesis =>
      obtain ⟨key, value⟩ := entry
      obtain ⟨first, others⟩ := List.forall_mem_cons.mp each
      rw [writeIndentedEntries]
      exact ascii_append.mpr ⟨ascii_append.mpr ⟨ascii_append.mpr ⟨ascii_append.mpr
        ⟨ascii_cons.mpr ⟨by decide, ascii_newline _⟩, ascii_asciiQuoted key⟩,
          ascii_text ": " (by decide)⟩, first _⟩, inductionHypothesis others⟩

/-- A document is written in ASCII. -/
theorem ascii_writeIndented
    (lawful : floats.Lawful)
    (document : Document Double)
    (level : Nat) :
    Ascii (writeIndented floats level document) := by
  induction document using Document.induction generalizing level with
  | null => exact ascii_text "null" (by decide)
  | bool value =>
      cases value with
      | false => exact ascii_text "false" (by decide)
      | true => exact ascii_text "true" (by decide)
  | int value => exact ascii_printInt value
  | float value => exact ascii_write_float lawful value
  | string value => exact ascii_asciiQuoted value
  | array values inductionHypothesis =>
      cases values with
      | nil => exact ascii_text "[]" (by decide)
      | cons value values =>
          obtain ⟨first, others⟩ := List.forall_mem_cons.mp inductionHypothesis
          rw [writeIndented]
          exact ascii_append.mpr ⟨ascii_append.mpr ⟨ascii_cons.mpr ⟨by decide, ascii_newline _⟩,
            first _⟩, ascii_writeIndentedValues others level⟩
  | object entries inductionHypothesis =>
      cases entries with
      | nil => exact ascii_text "\x7b\x7d" (by decide)
      | cons entry entries =>
          obtain ⟨key, value⟩ := entry
          obtain ⟨first, others⟩ := List.forall_mem_cons.mp inductionHypothesis
          rw [writeIndented]
          exact ascii_append.mpr ⟨ascii_append.mpr ⟨ascii_append.mpr ⟨ascii_append.mpr
            ⟨ascii_cons.mpr ⟨by decide, ascii_newline _⟩, ascii_asciiQuoted key⟩,
              ascii_text ": " (by decide)⟩, first _⟩, ascii_writeIndentedEntries others level⟩

theorem ascii_dumpsIndented (lawful : floats.Lawful) (document : Document Double) :
    Ascii (dumpsIndented floats document) :=
  ascii_writeIndented lawful _ 0

/-- A text in ASCII can be encoded. -/
theorem encodeUtf8_of_ascii {points : Text} (ascii : Ascii points) :
    Exists fun bytes => encodeUtf8 points = some bytes :=
  Option.isSome_iff_exists.mp (encodeUtf8_isSome_iff.mpr
    (plain_of_small fun point member => (ascii point member).2))

end Document
end Library
end LakehouseOps
