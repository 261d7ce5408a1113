import LakehouseOps.Library.CanonicalJson

/-!
# Limits of reading and writing JSON

Python reads no integer with too many digits and no document that is nested too deep, and
it encodes no text with a surrogate. Reading stops at the first place where the text is
malformed or a limit is met; which of the two comes first is told by a scan of the text.
-/

namespace LakehouseOps
namespace Library

/-- What Python allows: the digits of an integer, and how deep documents may be nested to be
read, to be written, and to be printed by `str`. -/
structure JsonLimits where
  digits : Nat
  reading : Nat
  writing : Nat
  printing : Nat

/-- Why a text is not read: it is malformed, or a limit is met before that. -/
inductive Stop
  | malformed
  | overrun
  deriving DecidableEq

/-- A text without surrogates. -/
def Plain (points : Text) : Prop :=
  forall point, point ∈ points -> (toChar? point).isSome = true

instance instDecidablePlain (points : Text) : Decidable (Plain points) :=
  inferInstanceAs (Decidable (forall point, point ∈ points -> (toChar? point).isSome = true))

theorem plain_append {left right : Text} : Plain (left ++ right) ↔ Plain left ∧ Plain right :=
  List.forall_mem_append

theorem plain_cons {point : CodePoint} {points : Text} :
    Plain (point :: points) ↔ (toChar? point).isSome = true ∧ Plain points :=
  List.forall_mem_cons

/-- The texts that can be encoded are those without surrogates. -/
theorem encodeUtf8_isSome_iff {points : Text} :
    (encodeUtf8 points).isSome = true ↔ Plain points := by
  unfold encodeUtf8
  rw [Option.isSome_map]
  induction points with
  | nil => exact ⟨fun _ => List.forall_mem_nil _, fun _ => rfl⟩
  | cons point points inductionHypothesis =>
      rw [plain_cons, ← inductionHypothesis, toChars?]
      cases toChar? point with
      | none => simp
      | some character => cases toChars? points <;> simp

theorem plain_char (character : Char) : (toChar? (char character)).isSome = true := by
  have isChar : (char character).val.isValidChar := character.valid
  unfold toChar?
  rw [dif_pos isChar]
  rfl

theorem plain_text (string : String) : Plain (text string) := by
  intro point member
  obtain ⟨character, _, rfl⟩ := List.mem_map.mp member
  exact plain_char character

theorem plain_of_small
    {points : Text}
    (small : forall point, point ∈ points -> point.val < 128) :
    Plain points := by
  intro point member
  have isChar : point.val.isValidChar := Or.inl (Nat.lt_trans (small point member) (by decide))
  unfold toChar?
  rw [dif_pos isChar]
  rfl

namespace Document

variable {Double : Type}

/-! ## Reading with limits -/

def orMalformed {Value : Type} (value : Option Value) : Except Stop Value :=
  value.elim (.error .malformed) .ok

/-- Whether a text starts with an integer of too many digits. -/
def tooManyDigits (limits : JsonLimits) (points : Text) : Bool :=
  (scanNumber points).any fun scanned =>
    scanned.1.fraction = [] && scanned.1.exponent = [] &&
      limits.digits < scanned.1.integer.countP isDigit

mutual

/-- `scan_once` with the levels that are left. -/
def scanValue (limits : JsonLimits) (floats : FloatFormat Double) :
    Nat -> Nat -> Text -> Except Stop (Document Double × Text)
  | 0, _, _ => .error .malformed
  | _ + 1, _, [] => .error .malformed
  | fuel + 1, levels, first :: rest =>
      if first = char '"' then
        orMalformed ((scanString rest).map fun scanned => (.string scanned.1, scanned.2))
      else if first = char '[' then
        if levels = 0 then .error .overrun
        else if (skipSpace rest).head? = some (char ']') then
          .ok (.array [], (skipSpace rest).tail)
        else
          (scanValue limits floats fuel (levels - 1) (skipSpace rest)).bind fun value =>
            (scanValues limits floats fuel (levels - 1) value.2).map fun values =>
              (.array (value.1 :: values.1), values.2)
      else if first = char '\x7b' then
        if levels = 0 then .error .overrun
        else if (skipSpace rest).head? = some (char '\x7d') then
          .ok (.object [], (skipSpace rest).tail)
        else
          (scanEntry limits floats fuel (levels - 1) (skipSpace rest)).bind fun entry =>
            (scanEntries limits floats fuel (levels - 1) entry.2).map fun entries =>
              (.object (entry.1 :: entries.1), entries.2)
      else if tooManyDigits limits (first :: rest) then .error .overrun
      else orMalformed (readScalar floats (first :: rest))

/-- The values of an array after the first one. -/
def scanValues (limits : JsonLimits) (floats : FloatFormat Double) :
    Nat -> Nat -> Text -> Except Stop (List (Document Double) × Text)
  | 0, _, _ => .error .malformed
  | fuel + 1, levels, points =>
      match skipSpace points with
      | [] => .error .malformed
      | first :: rest =>
          if first = char ']' then .ok ([], rest)
          else if first = char ',' then
            (scanValue limits floats fuel levels (skipSpace rest)).bind fun value =>
              (scanValues limits floats fuel levels value.2).map fun values =>
                (value.1 :: values.1, values.2)
          else .error .malformed

/-- A key, a colon and a value. -/
def scanEntry (limits : JsonLimits) (floats : FloatFormat Double) :
    Nat -> Nat -> Text -> Except Stop ((Text × Document Double) × Text)
  | 0, _, _ => .error .malformed
  | _ + 1, _, [] => .error .malformed
  | fuel + 1, levels, first :: rest =>
      if first = char '"' then
        (orMalformed (scanString rest)).bind fun key =>
          if (skipSpace key.2).head? = some (char ':') then
            (scanValue limits floats fuel levels (skipSpace (skipSpace key.2).tail)).map
              fun value => ((key.1, value.1), value.2)
          else .error .malformed
      else .error .malformed

/-- The entries of an object after the first one. -/
def scanEntries (limits : JsonLimits) (floats : FloatFormat Double) :
    Nat -> Nat -> Text -> Except Stop (List (Text × Document Double) × Text)
  | 0, _, _ => .error .malformed
  | fuel + 1, levels, points =>
      match skipSpace points with
      | [] => .error .malformed
      | first :: rest =>
          if first = char '\x7d' then .ok ([], rest)
          else if first = char ',' then
            (scanEntry limits floats fuel levels (skipSpace rest)).bind fun entry =>
              (scanEntries limits floats fuel levels entry.2).map fun entries =>
                (entry.1 :: entries.1, entries.2)
          else .error .malformed

end

/-- `json.loads(points)`, with the limits. -/
def loadsWithin (limits : JsonLimits) (floats : FloatFormat Double) (points : Text) :
    Except Stop (Document Double) :=
  (scanValue limits floats points.length limits.reading (skipSpace points)).bind fun value =>
    if skipSpace value.2 = [] then .ok (uniqueKeys value.1) else .error .malformed

/-! ## Where a limit is met -/

mutual

/-- A limit is met in the value at the start of the text, before anything malformed. -/
def valueOverruns (limits : JsonLimits) (floats : FloatFormat Double) :
    Nat -> Nat -> Text -> Bool
  | 0, _, _ => false
  | _ + 1, _, [] => false
  | fuel + 1, levels, first :: rest =>
      if first = char '"' then false
      else if first = char '[' then
        levels = 0 || ((skipSpace rest).head? ≠ some (char ']') &&
          (valueOverruns limits floats fuel (levels - 1) (skipSpace rest) ||
            (readValue floats fuel (skipSpace rest)).any fun value =>
              valuesOverrun limits floats fuel (levels - 1) value.2))
      else if first = char '\x7b' then
        levels = 0 || ((skipSpace rest).head? ≠ some (char '\x7d') &&
          (entryOverruns limits floats fuel (levels - 1) (skipSpace rest) ||
            (readEntry floats fuel (skipSpace rest)).any fun entry =>
              entriesOverrun limits floats fuel (levels - 1) entry.2))
      else tooManyDigits limits (first :: rest)

def valuesOverrun (limits : JsonLimits) (floats : FloatFormat Double) :
    Nat -> Nat -> Text -> Bool
  | 0, _, _ => false
  | fuel + 1, levels, points =>
      match skipSpace points with
      | [] => false
      | first :: rest =>
          first ≠ char ']' && (first = char ',' &&
            (valueOverruns limits floats fuel levels (skipSpace rest) ||
              (readValue floats fuel (skipSpace rest)).any fun value =>
                valuesOverrun limits floats fuel levels value.2))

def entryOverruns (limits : JsonLimits) (floats : FloatFormat Double) :
    Nat -> Nat -> Text -> Bool
  | 0, _, _ => false
  | _ + 1, _, [] => false
  | fuel + 1, levels, first :: rest =>
      first = char '"' && (scanString rest).any fun key =>
        (skipSpace key.2).head? = some (char ':') &&
          valueOverruns limits floats fuel levels (skipSpace (skipSpace key.2).tail)

def entriesOverrun (limits : JsonLimits) (floats : FloatFormat Double) :
    Nat -> Nat -> Text -> Bool
  | 0, _, _ => false
  | fuel + 1, levels, points =>
      match skipSpace points with
      | [] => false
      | first :: rest =>
          first ≠ char '\x7d' && (first = char ',' &&
            (entryOverruns limits floats fuel levels (skipSpace rest) ||
              (readEntry floats fuel (skipSpace rest)).any fun entry =>
                entriesOverrun limits floats fuel levels entry.2))

end

/-- A limit is met in the text, before anything malformed. -/
def textOverruns (limits : JsonLimits) (floats : FloatFormat Double) (points : Text) : Bool :=
  valueOverruns limits floats points.length limits.reading (skipSpace points)

/-- What comes of reading, from whether a limit is met and what is read without limits. -/
def outcome {Value : Type} (overruns : Bool) (read : Option Value) : Except Stop Value :=
  if overruns then .error .overrun else orMalformed read

theorem outcome_bind
    {Value Result : Type}
    (overruns : Bool)
    (read : Option Value)
    (nextOverruns : Value -> Bool)
    (next : Value -> Option Result) :
    (outcome overruns read).bind (fun value => outcome (nextOverruns value) (next value)) =
      outcome (overruns || read.any nextOverruns) (read.bind next) := by
  cases overruns with
  | true => rfl
  | false => cases read <;> rfl

theorem outcome_map
    {Value Result : Type}
    (overruns : Bool)
    (read : Option Value)
    (next : Value -> Result) :
    (outcome overruns read).map next = outcome overruns (read.map next) := by
  cases overruns with
  | true => rfl
  | false => cases read <;> rfl

section Scan

variable {limits : JsonLimits} {floats : FloatFormat Double}

/-- With the given fuel each of the four scans stops at a limit that is met, and else reads
as without limits. -/
structure ScansAs (limits : JsonLimits) (floats : FloatFormat Double) (fuel : Nat) : Prop where
  value : forall levels points, scanValue limits floats fuel levels points =
    outcome (valueOverruns limits floats fuel levels points) (readValue floats fuel points)
  values : forall levels points, scanValues limits floats fuel levels points =
    outcome (valuesOverrun limits floats fuel levels points) (readValues floats fuel points)
  entry : forall levels points, scanEntry limits floats fuel levels points =
    outcome (entryOverruns limits floats fuel levels points) (readEntry floats fuel points)
  entries : forall levels points, scanEntries limits floats fuel levels points =
    outcome (entriesOverrun limits floats fuel levels points) (readEntries floats fuel points)

/-- A first element and the ones after it. -/
theorem outcome_sequence
    {First Rest Result : Type}
    (firstOverruns : Bool)
    (first : Option (First × Text))
    (restOverruns : Text -> Bool)
    (rest : Text -> Option (Rest × Text))
    (combine : First -> Rest -> Result) :
    ((outcome firstOverruns first).bind fun value =>
        (outcome (restOverruns value.2) (rest value.2)).map fun values =>
          (combine value.1 values.1, values.2)) =
      outcome (firstOverruns || first.any fun value => restOverruns value.2)
        (first.bind fun value => (rest value.2).map fun values =>
          (combine value.1 values.1, values.2)) := by
  simp only [outcome_map]
  exact outcome_bind firstOverruns first _ _

theorem ScansAs.value_succ {fuel : Nat} (scans : ScansAs limits floats fuel) (levels : Nat)
    (points : Text) :
    scanValue limits floats (fuel + 1) levels points =
      outcome (valueOverruns limits floats (fuel + 1) levels points)
        (readValue floats (fuel + 1) points) := by
  cases points with
  | nil =>
      rw [scanValue, valueOverruns, readValue]
      rfl
  | cons first rest =>
      rw [scanValue, valueOverruns, readValue]
      by_cases isString : first = char '"'
      · rw [if_pos isString, if_pos isString, if_pos isString]
        rfl
      rw [if_neg isString, if_neg isString, if_neg isString]
      by_cases isArray : first = char '['
      · rw [if_pos isArray, if_pos isArray, if_pos isArray]
        by_cases deep : levels = 0
        · simp [deep, outcome]
        by_cases empty : (skipSpace rest).head? = some (char ']')
        · simp [deep, empty, outcome, orMalformed]
        · simp only [deep, empty, if_false, decide_false, Bool.false_or, ne_eq, not_false_eq_true,
            decide_true, Bool.true_and]
          simp only [scans.value, scans.values]
          exact outcome_sequence _ _ _ _ fun value values => Document.array (value :: values)
      rw [if_neg isArray, if_neg isArray, if_neg isArray]
      by_cases isObject : first = char '\x7b'
      · rw [if_pos isObject, if_pos isObject, if_pos isObject]
        by_cases deep : levels = 0
        · simp [deep, outcome]
        by_cases empty : (skipSpace rest).head? = some (char '\x7d')
        · simp [deep, empty, outcome, orMalformed]
        · simp only [deep, empty, if_false, decide_false, Bool.false_or, ne_eq, not_false_eq_true,
            decide_true, Bool.true_and]
          simp only [scans.entry, scans.entries]
          exact outcome_sequence _ _ _ _ fun entry entries => Document.object (entry :: entries)
      rw [if_neg isObject, if_neg isObject, if_neg isObject]
      rfl

theorem ScansAs.values_succ {fuel : Nat} (scans : ScansAs limits floats fuel) (levels : Nat)
    (points : Text) :
    scanValues limits floats (fuel + 1) levels points =
      outcome (valuesOverrun limits floats (fuel + 1) levels points)
        (readValues floats (fuel + 1) points) := by
  rw [scanValues, valuesOverrun, readValues]
  cases skipSpace points with
  | nil => rfl
  | cons first rest =>
      by_cases closes : first = char ']'
      · simp [closes, outcome, orMalformed]
      by_cases comma : first = char ','
      · simp only [comma, if_true, decide_true, Bool.true_and, ne_eq, show ¬char ',' = char ']' by decide, not_false_eq_true,
          scans.value, scans.values]
        exact outcome_sequence _ _ _ _ fun value values => value :: values
      · simp [closes, comma, outcome, orMalformed]

theorem ScansAs.entry_succ {fuel : Nat} (scans : ScansAs limits floats fuel) (levels : Nat)
    (points : Text) :
    scanEntry limits floats (fuel + 1) levels points =
      outcome (entryOverruns limits floats (fuel + 1) levels points)
        (readEntry floats (fuel + 1) points) := by
  cases points with
  | nil =>
      rw [scanEntry, entryOverruns, readEntry]
      rfl
  | cons first rest =>
      rw [scanEntry, entryOverruns, readEntry]
      by_cases isString : first = char '"'
      · cases scanString rest with
        | none => simp [isString, outcome, orMalformed, Except.bind]
        | some key =>
            by_cases colon : (skipSpace key.2).head? = some (char ':')
            · simp only [isString, colon, if_true, decide_true, Bool.true_and, scans.value,
                outcome_map, Option.any_some, Option.bind_some]
              exact if_pos colon
            · simp [isString, colon, outcome, orMalformed, Except.bind]
      · simp [isString, outcome, orMalformed]

theorem ScansAs.entries_succ {fuel : Nat} (scans : ScansAs limits floats fuel) (levels : Nat)
    (points : Text) :
    scanEntries limits floats (fuel + 1) levels points =
      outcome (entriesOverrun limits floats (fuel + 1) levels points)
        (readEntries floats (fuel + 1) points) := by
  rw [scanEntries, entriesOverrun, readEntries]
  cases skipSpace points with
  | nil => rfl
  | cons first rest =>
      by_cases closes : first = char '\x7d'
      · simp [closes, outcome, orMalformed]
      by_cases comma : first = char ','
      · simp only [comma, if_true, decide_true, Bool.true_and, ne_eq, show ¬char ',' = char '\x7d' by decide, not_false_eq_true,
          scans.entry, scans.entries]
        exact outcome_sequence _ _ _ _ fun entry entries => entry :: entries
      · simp [closes, comma, outcome, orMalformed]

theorem scansAs (limits : JsonLimits) (floats : FloatFormat Double) (fuel : Nat) :
    ScansAs limits floats fuel := by
  induction fuel with
  | zero =>
      constructor
      · intro levels points
        rw [scanValue, valueOverruns, readValue]
        rfl
      · intro levels points
        rw [scanValues, valuesOverrun, readValues]
        rfl
      · intro levels points
        rw [scanEntry, entryOverruns, readEntry]
        rfl
      · intro levels points
        rw [scanEntries, entriesOverrun, readEntries]
        rfl
  | succ fuel scans =>
      exact ⟨scans.value_succ, scans.values_succ, scans.entry_succ, scans.entries_succ⟩

/-- Loading stops at a limit that the text meets, and else loads as without limits. -/
theorem loadsWithin_eq (limits : JsonLimits) (floats : FloatFormat Double) (points : Text) :
    loadsWithin limits floats points =
      outcome (textOverruns limits floats points) (loads floats points) := by
  have scanned := (scansAs limits floats points.length).value limits.reading (skipSpace points)
  unfold loadsWithin loads textOverruns
  rw [scanned]
  cases valueOverruns limits floats points.length limits.reading (skipSpace points) with
  | true => rfl
  | false =>
      cases readValue floats points.length (skipSpace points) with
      | none => rfl
      | some value =>
          change (if skipSpace value.2 = [] then Except.ok (uniqueKeys value.1)
            else .error .malformed) = orMalformed (if skipSpace value.2 = [] then _ else none)
          split <;> rfl

end Scan

/-! ## Nesting -/

mutual

/-- How deep a document is nested, where a scalar counts as given. -/
def nesting (scalar : Nat) : Document Double -> Nat
  | .null => scalar
  | .bool _ => scalar
  | .int _ => scalar
  | .float _ => scalar
  | .string _ => scalar
  | .array values => 1 + nestingValues scalar values
  | .object entries => 1 + nestingEntries scalar entries

/-- The deepest value. -/
def nestingValues (scalar : Nat) : List (Document Double) -> Nat
  | [] => 0
  | value :: values => max (nesting scalar value) (nestingValues scalar values)

/-- The deepest entry; a key is a scalar. -/
def nestingEntries (scalar : Nat) : List (Text × Document Double) -> Nat
  | [] => 0
  | (_, value) :: entries => max (max scalar (nesting scalar value)) (nestingEntries scalar entries)

end

/-! ## Encoding -/

/-- No string and no key of the document has a surrogate. -/
inductive Encodable : Document Double -> Prop
  | null : Encodable .null
  | bool (value : Bool) : Encodable (.bool value)
  | int (value : Int) : Encodable (.int value)
  | float (value : Double) : Encodable (.float value)
  | string {value : Text} (plain : Plain value) : Encodable (.string value)
  | array {values : List (Document Double)}
      (each : forall value, value ∈ values -> Encodable value) :
      Encodable (.array values)
  | object {entries : List (Text × Document Double)}
      (keys : forall entry, entry ∈ entries -> Plain entry.1)
      (each : forall entry, entry ∈ entries -> Encodable entry.2) :
      Encodable (.object entries)

/-- A character is written without a surrogate exactly when it is none. -/
theorem plain_escapeCharacter {point : CodePoint} :
    Plain (escapeCharacter point) ↔ (toChar? point).isSome = true := by
  have hex : forall value, value < 16 -> (hexDigit value).val < 128 := by
    decide
  by_cases letter : point ∈ ([char '"', char '\\', 10, 13, 9, 12, 8] : Text)
  · simp only [List.mem_cons, List.not_mem_nil, or_false] at letter
    rcases letter with rfl | rfl | rfl | rfl | rfl | rfl | rfl
    · exact iff_of_true (plain_text "\\\"") (plain_char '"')
    · exact iff_of_true (plain_text "\\\\") (plain_char '\\')
    · exact iff_of_true (plain_text "\\n") (plain_char '\n')
    · exact iff_of_true (plain_text "\\r") (plain_char '\r')
    · exact iff_of_true (plain_text "\\t") (plain_char '\t')
    · exact iff_of_true (plain_text "\\f") (plain_char '\x0c')
    · exact iff_of_true (plain_text "\\b") (plain_char '\x08')
  · simp only [List.mem_cons, List.not_mem_nil, or_false, not_or] at letter
    obtain ⟨notQuote, notBackslash, notLine, notReturn, notTab, notForm, notBack⟩ := letter
    unfold escapeCharacter
    rw [if_neg notQuote, if_neg notBackslash, if_neg notLine, if_neg notReturn, if_neg notTab,
      if_neg notForm, if_neg notBack]
    split
    · next control =>
        have plain : Plain [point] := plain_of_small fun other member => by
          rw [List.mem_singleton.mp member]
          omega
        have digits : Plain [hexDigit (point.val / 16), hexDigit (point.val % 16)] :=
          plain_of_small (List.forall_mem_cons.mpr ⟨hex _ (by omega),
            List.forall_mem_singleton.mpr (hex _ (by omega))⟩)
        exact iff_of_true (plain_append.mpr ⟨plain_text "\\u00", digits⟩)
          (plain point List.mem_cons_self)
    · exact List.forall_mem_singleton

theorem plain_quoted {points : Text} : Plain (quoted points) ↔ Plain points := by
  have escaped : Plain (escapeCharacters points) ↔ Plain points := by
    induction points with
    | nil => rfl
    | cons point points inductionHypothesis =>
        rw [escapeCharacters, List.flatMap_cons, plain_append, plain_escapeCharacter,
          ← escapeCharacters, inductionHypothesis, plain_cons]
  rw [quoted, plain_append, plain_cons, escaped, plain_cons]
  exact ⟨fun whole => whole.1.2,
    fun plain => ⟨⟨plain_char '"', plain⟩, plain_char '"', List.forall_mem_nil _⟩⟩

theorem plain_printNat (number : Nat) : Plain (printNat number) := by
  apply plain_of_small
  intro point member
  unfold printNat at member
  split at member
  · rw [List.mem_singleton.mp member]
    decide
  · obtain ⟨digit, isDigit, rfl⟩ := List.mem_map.mp member
    have small := Nat.digits_lt_base (by decide : 1 < 10) (List.mem_reverse.mp isDigit)
    have digits : forall value, value < 10 -> (digitPoint value).val < 128 := by
      decide
    exact digits digit small

theorem plain_printInt (number : Int) : Plain (printInt number) := by
  cases number with
  | ofNat number => exact plain_printNat number
  | negSucc number => exact plain_cons.mpr ⟨plain_char '-', plain_printNat _⟩

section Encoding

variable {floats : FloatFormat Double}

theorem plain_writeValues {values : List (Document Double)} :
    Plain (writeValues floats values) ↔
      forall value, value ∈ values -> Plain (write floats value) := by
  induction values with
  | nil =>
      rw [writeValues, plain_cons]
      exact ⟨fun _ => List.forall_mem_nil _, fun _ => ⟨plain_char ']', List.forall_mem_nil _⟩⟩
  | cons value values inductionHypothesis =>
      rw [writeValues, List.cons_append, plain_cons, plain_append, inductionHypothesis,
        List.forall_mem_cons]
      exact and_iff_right (plain_char ',')

theorem plain_writeEntries {entries : List (Text × Document Double)} :
    Plain (writeEntries floats entries) ↔
      (forall entry, entry ∈ entries -> Plain entry.1) ∧
        forall entry, entry ∈ entries -> Plain (write floats entry.2) := by
  induction entries with
  | nil =>
      rw [writeEntries, plain_cons]
      exact ⟨fun _ => ⟨List.forall_mem_nil _, List.forall_mem_nil _⟩,
        fun _ => ⟨plain_char '\x7d', List.forall_mem_nil _⟩⟩
  | cons entry entries inductionHypothesis =>
      obtain ⟨key, value⟩ := entry
      rw [writeEntries]
      simp only [List.cons_append, plain_cons, plain_append, plain_quoted, inductionHypothesis,
        List.forall_mem_cons, plain_char, true_and]
      tauto

theorem encodable_array_iff {values : List (Document Double)} :
    Encodable (.array values) ↔ forall value, value ∈ values -> Encodable value := by
  constructor
  · intro encodable
    cases encodable with
    | array each => exact each
  · exact .array

theorem encodable_object_iff {entries : List (Text × Document Double)} :
    Encodable (.object entries) ↔ (forall entry, entry ∈ entries -> Plain entry.1) ∧
      forall entry, entry ∈ entries -> Encodable entry.2 := by
  constructor
  · intro encodable
    cases encodable with
    | object keys each => exact ⟨keys, each⟩
  · exact fun both => .object both.1 both.2

/-- The text of a document has no surrogate exactly when its strings and keys have none. -/
theorem plain_write_iff
    (plainFloats : forall value, Plain (floats.write value))
    {document : Document Double} :
    Plain (write floats document) ↔ Encodable document := by
  induction document using Document.induction with
  | null => exact iff_of_true (plain_text "null") .null
  | bool value =>
      cases value with
      | true => exact iff_of_true (plain_text "true") (.bool true)
      | false => exact iff_of_true (plain_text "false") (.bool false)
  | int value =>
      rw [write]
      exact iff_of_true (plain_printInt value) (.int value)
  | float value =>
      rw [write]
      exact iff_of_true (plainFloats value) (.float value)
  | string value =>
      rw [write, plain_quoted]
      constructor
      · exact .string
      · intro encodable
        cases encodable with
        | string plain => exact plain
  | array values inductionHypothesis =>
      have each : Plain (writeValues floats values) ↔ Encodable (.array values) := by
        rw [plain_writeValues, encodable_array_iff]
        exact forall₂_congr inductionHypothesis
      rw [← each]
      cases values with
      | nil => exact iff_of_true (plain_text "[]") (plain_text "]")
      | cons value values =>
          rw [write, writeValues, List.cons_append, List.cons_append, plain_cons, plain_cons]
          exact and_congr_left' (iff_of_true (plain_char '[') (plain_char ','))
  | object entries inductionHypothesis =>
      have each : Plain (writeEntries floats entries) ↔ Encodable (.object entries) := by
        rw [plain_writeEntries, encodable_object_iff]
        exact and_congr_right' (forall₂_congr inductionHypothesis)
      rw [← each]
      cases entries with
      | nil => exact iff_of_true (plain_text "\x7b\x7d") (plain_text "\x7d")
      | cons entry entries =>
          obtain ⟨key, value⟩ := entry
          rw [write, writeEntries]
          simp only [List.cons_append, plain_cons, plain_char, true_and]

/-- Sorting the entries changes neither strings nor keys. -/
theorem encodable_canonical_iff {document : Document Double} :
    Encodable (canonical document) ↔ Encodable document := by
  induction document using Document.induction with
  | null => rfl
  | bool value => rfl
  | int value => rfl
  | float value => rfl
  | string value => rfl
  | array values inductionHypothesis =>
      rw [canonical_array, encodable_array_iff, encodable_array_iff, List.forall_mem_map]
      exact forall₂_congr inductionHypothesis
  | object entries inductionHypothesis =>
      have sameEntries : forall entry, entry ∈ canonicalFields entries ↔
          entry ∈ entries.map fun entry => (entry.1, canonical entry.2) :=
        fun entry => (sortEntries_perm _).mem_iff
      rw [canonical_object, encodable_object_iff, encodable_object_iff]
      simp only [sameEntries, List.forall_mem_map]
      exact and_congr_right' (forall₂_congr inductionHypothesis)

/-- A document is dumped and encoded exactly when it has no surrogate. -/
theorem encode_dumps_iff
    (plainFloats : forall value, Plain (floats.write value))
    {document : Document Double} :
    (encodeUtf8 (dumps floats document)).isSome = true ↔ Encodable document := by
  rw [encodeUtf8_isSome_iff, dumps, plain_write_iff plainFloats, encodable_canonical_iff]

end Encoding

end Document
end Library
end LakehouseOps
