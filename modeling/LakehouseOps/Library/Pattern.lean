import Mathlib.Data.List.Basic

/-!
# Patterns over names

Two notations for sets of names. The first is a fragment of regular expressions:
alternatives of escaped characters and `.*`, matched against a whole text. The
second has the wildcards `*` and `?`. A text written by `alternatives` is read
back as the values it was written from. Texts joined by a separator are taken apart
at its first occurrence.
-/

namespace LakehouseOps
namespace Library
namespace Pattern

/-! ## Regular expressions -/

/-- The characters that `.` does not match. -/
def lineTerminators : List Char :=
  ['\n', '\r', '\u0085', '\u2028', '\u2029']

/-- A text without line terminators. -/
def OneLine (text : List Char) : Prop :=
  forall character, character ∈ text -> character ∉ lineTerminators

instance (text : List Char) : Decidable (OneLine text) :=
  inferInstanceAs (Decidable (forall character, character ∈ text -> _))

/-- The characters with a meaning in a regular expression, and those that
`re.escape` escapes with them. -/
def specialCharacters : List Char :=
  ['(', ')', '[', ']', '\x7b', '\x7d', '?', '*', '+', '-', '|', '^', '$', '\\', '.', '&',
    '~', '#', ' ', '\t', '\n', '\r', '\x0b', '\x0c']

/-- `re.escape`. -/
def escape (text : List Char) : List Char :=
  text.flatMap fun character =>
    if character ∈ specialCharacters then ['\\', character] else [character]

/-- One part of an alternative. -/
inductive Atom
  | character (value : Char)
  /-- `.*` -/
  | anything
  deriving DecidableEq

/-- Put an atom in front of the first alternative. -/
def consAtom (atom : Atom) : List (List Atom) -> List (List Atom)
  | [] => [[atom]]
  | first :: others => (atom :: first) :: others

/-- Read a regular expression; one outside the fragment is not read. -/
def parse : List Char -> Option (List (List Atom))
  | [] => some [[]]
  | '|' :: rest => (parse rest).map fun others => [] :: others
  | '\\' :: value :: rest =>
      if value.isAlphanum then none
      else (parse rest).map (consAtom (.character value))
  | '.' :: '*' :: rest => (parse rest).map (consAtom .anything)
  | value :: rest =>
      if value ∈ specialCharacters then none
      else (parse rest).map (consAtom (.character value))

/-- A run of characters within one line, and then the rest. -/
def matchRun (rest : List Char -> Bool) : List Char -> Bool
  | [] => rest []
  | value :: text =>
      rest (value :: text) || (value ∉ lineTerminators && matchRun rest text)

/-- Whether an alternative matches a whole text. -/
def matchAtoms : List Atom -> List Char -> Bool
  | [], text => text.isEmpty
  | .character _ :: _, [] => false
  | .character value :: atoms, character :: text =>
      value = character && matchAtoms atoms text
  | .anything :: atoms, text => matchRun (matchAtoms atoms) text

/-- Whether a regular expression matches a whole text. -/
def fullMatch (expression text : String) : Bool :=
  match parse expression.toList with
  | none => false
  | some alternatives => alternatives.any fun atoms => matchAtoms atoms text.toList

/-- The expression for one value: `.*` for a star, otherwise the value itself. -/
def segment (value : String) : List Char :=
  if value = "*" then ['.', '*'] else escape value.toList

/-- The atoms of one value. -/
def segmentAtoms (value : String) : List Atom :=
  if value = "*" then [.anything] else value.toList.map .character

/-- The expression that matches any of the values. -/
def alternatives (values : List String) : String :=
  String.ofList (List.intercalate ['|'] (values.map segment))

/-! ### Reading what was written -/

theorem escape_cons (value : Char) (text : List Char) :
    escape (value :: text) =
      (if value ∈ specialCharacters then ['\\', value] else [value]) ++ escape text := rfl

private theorem special_not_alphanum
    {value : Char}
    (special : value ∈ specialCharacters) :
    value.isAlphanum = false := by
  simp only [specialCharacters, List.mem_cons, List.not_mem_nil, or_false] at special
  rcases special with rfl | rfl | rfl | rfl | rfl | rfl | rfl | rfl | rfl | rfl | rfl | rfl |
    rfl | rfl | rfl | rfl | rfl | rfl | rfl | rfl | rfl | rfl | rfl | rfl <;> decide

/-- Atoms in front of the first alternative. -/
private def consAtoms (atoms : List Atom) (others : List (List Atom)) : List (List Atom) :=
  atoms.foldr consAtom others

/-- An escaped text is read as its characters. -/
private theorem parse_escape_append
    (text rest : List Char)
    (others : List (List Atom))
    (parsed : parse rest = some others) :
    parse (escape text ++ rest) = some (consAtoms (text.map .character) others) := by
  induction text with
  | nil => exact parsed
  | cons value text inductionHypothesis =>
      rw [escape_cons]
      by_cases special : value ∈ specialCharacters
      · rw [if_pos special]
        simp only [List.cons_append, List.nil_append]
        rw [parse, special_not_alphanum special, if_neg (by simp), inductionHypothesis]
        rfl
      · rw [if_neg special, List.singleton_append, List.cons_append]
        rw [parse, if_neg special, inductionHypothesis]
        · rfl
        · rintro rfl
          exact special (by decide)
        · rintro other text rfl
          exact absurd (by decide) special
        · rintro text rfl
          exact absurd (by decide) special

private theorem consAtoms_cons
    (atoms first : List Atom)
    (others : List (List Atom)) :
    consAtoms atoms (first :: others) = (atoms ++ first) :: others := by
  induction atoms with
  | nil => rfl
  | cons atom atoms inductionHypothesis =>
      change consAtom atom (consAtoms atoms (first :: others)) = _
      rw [inductionHypothesis]
      rfl

/-- The expression of a value is read as its atoms. -/
private theorem parse_segment_append
    (value : String)
    {rest : List Char}
    {others : List (List Atom)}
    (parsed : parse rest = some ([] :: others)) :
    parse (segment value ++ rest) = some (segmentAtoms value :: others) := by
  unfold segment segmentAtoms
  split
  · change (parse rest).map (consAtom .anything) = _
    rw [parsed]
    rfl
  · rw [parse_escape_append _ _ _ parsed, consAtoms_cons, List.append_nil]

/-- Alternatives are read as the atoms of their values. -/
theorem parse_alternatives
    {values : List String}
    (present : values ≠ []) :
    parse (alternatives values).toList = some (values.map segmentAtoms) := by
  unfold alternatives
  rw [String.toList_ofList]
  induction values with
  | nil => exact absurd rfl present
  | cons value rest inductionHypothesis =>
      cases rest with
      | nil =>
          have read := parse_segment_append value (show parse [] = some ([] :: []) from rfl)
          rw [List.append_nil] at read
          simpa using read
      | cons next rest =>
          have later := inductionHypothesis (List.cons_ne_nil next rest)
          have read : parse ('|' :: List.intercalate ['|'] ((next :: rest).map segment)) =
              some ([] :: (next :: rest).map segmentAtoms) := by
            change (parse (List.intercalate ['|'] ((next :: rest).map segment))).map
              (fun others => [] :: others) = _
            rw [later]
            rfl
          exact parse_segment_append value read

/-- The expression of some values, the first of them not empty, is not empty. -/
theorem alternatives_ne_empty
    {value : String}
    {rest : List String}
    (named : value ≠ "") :
    alternatives (value :: rest) ≠ "" := by
  have present : segment value ≠ [] := by
    unfold segment
    split
    · exact List.cons_ne_nil _ _
    · cases characters : value.toList with
      | nil => exact absurd (String.toList_inj.mp characters) named
      | cons head tail =>
          rw [escape_cons]
          split <;> exact List.cons_ne_nil _ _
  unfold alternatives
  rw [ne_eq, ← String.toList_inj, String.toList_ofList]
  intro empty
  cases rest with
  | nil => exact present (by simpa using empty)
  | cons next rest => exact present (List.append_eq_nil_iff.mp empty).1

/-- A run followed by nothing matches the texts of one line. -/
private theorem matchRun_isEmpty (text : List Char) :
    matchRun (fun rest => rest.isEmpty) text = true ↔ OneLine text := by
  induction text with
  | nil => simp [matchRun, OneLine]
  | cons value text inductionHypothesis =>
      rw [matchRun]
      simp only [List.isEmpty_cons, Bool.false_or, Bool.and_eq_true, decide_eq_true_eq,
        inductionHypothesis]
      simp [OneLine]

private theorem matchAtoms_characters (value text : List Char) :
    matchAtoms (value.map .character) text = true ↔ value = text := by
  induction value generalizing text with
  | nil =>
      cases text with
      | nil => simp [matchAtoms]
      | cons character text => simp [matchAtoms]
  | cons head value inductionHypothesis =>
      cases text with
      | nil => simp [matchAtoms]
      | cons character text => simp [matchAtoms, inductionHypothesis]

/-- The value names the text: a star any text of one line, another value itself. -/
def Denotes (value name : String) : Prop :=
  if value = "*" then OneLine name.toList else value = name

instance (value name : String) : Decidable (Denotes value name) := by
  unfold Denotes
  infer_instance

private theorem matchAtoms_segment (value name : String) :
    matchAtoms (segmentAtoms value) name.toList = true ↔ Denotes value name := by
  unfold segmentAtoms Denotes
  split
  · have run : matchAtoms [.anything] name.toList =
        matchRun (fun rest => rest.isEmpty) name.toList := by
      rw [matchAtoms]
      congr 1
    rw [run, matchRun_isEmpty]
  · rw [matchAtoms_characters, String.toList_inj]

/-- The expression for some values matches the texts that one of them names. -/
theorem fullMatch_alternatives
    {values : List String}
    (present : values ≠ [])
    (name : String) :
    fullMatch (alternatives values) name = true ↔
      Exists fun value => value ∈ values ∧ Denotes value name := by
  unfold fullMatch
  rw [parse_alternatives present]
  simp only [List.any_map, List.any_eq_true, Function.comp_apply, matchAtoms_segment]

/-! ## Wildcards -/

/-- Some suffix of the text satisfies the condition. -/
def anySuffix (condition : List Char -> Bool) : List Char -> Bool
  | [] => condition []
  | value :: text => condition (value :: text) || anySuffix condition text

/-- Match with `*` for any run of characters and `?` for one character. -/
def matchWildcards : List Char -> List Char -> Bool
  | [], text => text.isEmpty
  | '*' :: pattern, text => anySuffix (matchWildcards pattern) text
  | '?' :: pattern, _ :: text => matchWildcards pattern text
  | character :: pattern, value :: text => character = value && matchWildcards pattern text
  | _ :: _, [] => false

/-- A value that is a star or has no wildcard characters. -/
def Plain (value : String) : Prop :=
  value = "*" ∨ ('*' ∉ value.toList ∧ '?' ∉ value.toList)

instance (value : String) : Decidable (Plain value) :=
  inferInstanceAs (Decidable (_ ∨ _))

private theorem anySuffix_isEmpty (text : List Char) :
    anySuffix (fun rest => rest.isEmpty) text = true := by
  induction text with
  | nil => rfl
  | cons value text inductionHypothesis => simp [anySuffix, inductionHypothesis]

private theorem matchWildcards_literal
    {pattern : List Char}
    (noStar : '*' ∉ pattern)
    (noMark : '?' ∉ pattern)
    (text : List Char) :
    matchWildcards pattern text = true ↔ pattern = text := by
  induction pattern generalizing text with
  | nil => cases text <;> simp [matchWildcards]
  | cons head pattern inductionHypothesis =>
      obtain ⟨headStar, tailStar⟩ := not_or.mp (mt List.mem_cons.mpr noStar)
      obtain ⟨headMark, tailMark⟩ := not_or.mp (mt List.mem_cons.mpr noMark)
      cases text with
      | nil => simp [matchWildcards, Ne.symm headStar]
      | cons value text =>
          rw [matchWildcards]
          · simp [inductionHypothesis tailStar tailMark]
          · exact fun same => headStar same.symm
          · exact fun same => headMark same.symm

/-- A plain value matches everything when it is a star, and otherwise itself. -/
theorem matchWildcards_plain
    {value : String}
    (plain : Plain value)
    (name : String) :
    matchWildcards value.toList name.toList = true ↔ value = "*" ∨ value = name := by
  rcases plain with rfl | ⟨noStar, noMark⟩
  · have star : matchWildcards "*".toList name.toList =
        anySuffix (fun rest => rest.isEmpty) name.toList := by
      change anySuffix (matchWildcards []) name.toList = _
      congr 1
    rw [star, anySuffix_isEmpty]
    exact iff_of_true rfl (Or.inl rfl)
  · rw [matchWildcards_literal noStar noMark, String.toList_inj]
    constructor
    · exact Or.inr
    · rintro (rfl | same)
      · exact absurd (by decide) noStar
      · exact same

/-! ## Separators -/

/-- Texts up to the first separator are equal where the whole texts are. -/
theorem eq_of_append_separator
    {separator : Char}
    {left right leftRest rightRest : List Char}
    (leftClean : separator ∉ left)
    (rightClean : separator ∉ right)
    (same : left ++ separator :: leftRest = right ++ separator :: rightRest) :
    left = right ∧ leftRest = rightRest := by
  induction left generalizing right with
  | nil =>
      cases right with
      | nil => exact ⟨rfl, (List.cons.inj same).2⟩
      | cons head right =>
          have isSeparator : separator = head := (List.cons.inj same).1
          exact absurd (isSeparator ▸ List.mem_cons_self) rightClean
  | cons head left inductionHypothesis =>
      cases right with
      | nil =>
          have isSeparator : head = separator := (List.cons.inj same).1
          exact absurd (isSeparator ▸ List.mem_cons_self) leftClean
      | cons other right =>
          obtain ⟨sameHead, sameTail⟩ := List.cons.inj same
          obtain ⟨sameLeft, sameRest⟩ := inductionHypothesis
            (fun member => leftClean (List.mem_cons_of_mem _ member))
            (fun member => rightClean (List.mem_cons_of_mem _ member)) sameTail
          exact ⟨by rw [sameHead, sameLeft], sameRest⟩

end Pattern
end Library
end LakehouseOps
