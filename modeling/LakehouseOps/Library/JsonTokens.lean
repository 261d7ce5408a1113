import Mathlib.Data.List.TakeWhile
import Mathlib.Data.Nat.Digits.Lemmas
import LakehouseOps.Library.CodePoints

/-!
# Strings and numbers of JSON texts

The scanners of Python's `json` for strings and numbers, and what `json.dumps` writes
for them. A scanner reads back what was written and leaves the text after it.
-/

namespace LakehouseOps
namespace Library

/-! ## Strings -/

/-- The digit of a value below 16. -/
def hexDigit (value : Nat) : CodePoint :=
  if value < 10 then Fin.ofNat 0x110000 (48 + value) else Fin.ofNat 0x110000 (87 + value)

/-- The value of a hexadecimal digit. -/
def hexValue? (point : CodePoint) : Option Nat :=
  if 48 ≤ point.val ∧ point.val ≤ 57 then some (point.val - 48)
  else if 97 ≤ point.val ∧ point.val ≤ 102 then some (point.val - 87)
  else if 65 ≤ point.val ∧ point.val ≤ 70 then some (point.val - 55)
  else none

theorem hexValue?_hexDigit {value : Nat} (small : value < 16) :
    hexValue? (hexDigit value) = some value := by
  revert small value
  decide

/-- What stands for one character of a string, between the quotes. -/
def escapeCharacter (point : CodePoint) : Text :=
  if point = char '"' then [char '\\', char '"']
  else if point = char '\\' then [char '\\', char '\\']
  else if point = 10 then [char '\\', char 'n']
  else if point = 13 then [char '\\', char 'r']
  else if point = 9 then [char '\\', char 't']
  else if point = 12 then [char '\\', char 'f']
  else if point = 8 then [char '\\', char 'b']
  else if point.val < 32 then
    [char '\\', char 'u', char '0', char '0', hexDigit (point.val / 16), hexDigit (point.val % 16)]
  else [point]

def escapeCharacters (points : Text) : Text :=
  points.flatMap escapeCharacter

/-- `json.dumps` of a string, with `ensure_ascii=False` -/
def quoted (points : Text) : Text :=
  char '"' :: escapeCharacters points ++ [char '"']

/-- A unit of a string: a character as it stands, or the code of a `\u` escape. -/
inductive StringUnit
  | plain (point : CodePoint)
  | escaped (code : Nat)

/-- The character of an escape of one letter. -/
def simpleEscape (letter : CodePoint) : Option CodePoint :=
  if letter = char '"' then some (char '"')
  else if letter = char '\\' then some (char '\\')
  else if letter = char '/' then some (char '/')
  else if letter = char 'b' then some 8
  else if letter = char 'f' then some 12
  else if letter = char 'n' then some 10
  else if letter = char 'r' then some 13
  else if letter = char 't' then some 9
  else none

/-- The code of the four hexadecimal digits that a text starts with. -/
def hexCode : Text -> Option Nat
  | first :: second :: third :: fourth :: _ => do
      let first <- hexValue? first
      let second <- hexValue? second
      let third <- hexValue? third
      let fourth <- hexValue? fourth
      return ((first * 16 + second) * 16 + third) * 16 + fourth
  | _ => none

/-- The unit of the escape after a backslash, and the number of characters it takes. -/
def scanEscape : Text -> Option (StringUnit × Nat)
  | [] => none
  | letter :: rest =>
      if letter = char 'u' then (hexCode rest).map fun code => (.escaped code, 5)
      else (simpleEscape letter).map fun point => (.plain point, 1)

/-- The units up to the closing quote, and the text after it. The count is what is left
of an escape. -/
def scanUnits : Nat -> Text -> Option (List StringUnit × Text)
  | _, [] => none
  | count + 1, _ :: rest => scanUnits count rest
  | 0, point :: rest =>
      if point = char '"' then some ([], rest)
      else if point = char '\\' then
        (scanEscape rest).bind fun escape =>
          (scanUnits escape.2 rest).map fun scanned => (escape.1 :: scanned.1, scanned.2)
      else if point.val < 32 then none
      else (scanUnits 0 rest).map fun scanned => (.plain point :: scanned.1, scanned.2)

/-- Whether two codes are a pair of surrogates. -/
def isPair (high low : Nat) : Bool :=
  0xd800 ≤ high && high ≤ 0xdbff && 0xdc00 ≤ low && low ≤ 0xdfff

/-- The characters of the units; two escapes that are a pair of surrogates are one. -/
def joinSurrogates : List StringUnit -> Text
  | [] => []
  | .plain point :: units => point :: joinSurrogates units
  | .escaped code :: units =>
      match units.head? with
      | some (.escaped low) =>
          if isPair code low then
            Fin.ofNat 0x110000 (0x10000 + (code - 0xd800) * 1024 + (low - 0xdc00)) ::
              (joinSurrogates units).tail
          else Fin.ofNat 0x110000 code :: joinSurrogates units
      | _ => Fin.ofNat 0x110000 code :: joinSurrogates units

/-- `py_scanstring`: the string up to its closing quote. -/
def scanString (points : Text) : Option (Text × Text) :=
  (scanUnits 0 points).map fun scanned => (joinSurrogates scanned.1, scanned.2)

/-- The unit that a written character is read back as. -/
def unitOf (point : CodePoint) : StringUnit :=
  if point.val < 32 ∧ point ∉ ([8, 9, 10, 12, 13] : Text) then .escaped point.val
  else .plain point

theorem hexCode_control {code : Nat} (small : code < 32) (rest : Text) :
    hexCode (char '0' :: char '0' :: hexDigit (code / 16) :: hexDigit (code % 16) :: rest) =
      some code := by
  have zero : hexValue? (char '0') = some 0 := by decide
  simp only [hexCode, zero, hexValue?_hexDigit (show code / 16 < 16 by omega),
    hexValue?_hexDigit (show code % 16 < 16 by omega), Option.bind_eq_bind, Option.bind_some,
    Option.pure_def, Option.some.injEq]
  omega

theorem scanUnits_plain
    {point : CodePoint}
    (notQuote : point ≠ char '"')
    (notBackslash : point ≠ char '\\')
    (notControl : ¬point.val < 32)
    (rest : Text) :
    scanUnits 0 (point :: rest) =
      (scanUnits 0 rest).map fun scanned => (.plain point :: scanned.1, scanned.2) := by
  simp only [scanUnits, if_neg notQuote, if_neg notBackslash, if_neg notControl]

theorem scanUnits_simple
    {letter plain : CodePoint}
    (notCode : letter ≠ char 'u')
    (escape : simpleEscape letter = some plain)
    (rest : Text) :
    scanUnits 0 (char '\\' :: letter :: rest) =
      (scanUnits 0 rest).map fun scanned => (.plain plain :: scanned.1, scanned.2) := by
  have scanned : scanEscape (letter :: rest) = some (.plain plain, 1) := by
    rw [scanEscape, if_neg notCode, escape, Option.map_some]
  simp [scanUnits, scanned]

theorem scanUnits_code
    {first second third fourth : CodePoint}
    {code : Nat}
    {rest : Text}
    (hex : hexCode (first :: second :: third :: fourth :: rest) = some code) :
    scanUnits 0 (char '\\' :: char 'u' :: first :: second :: third :: fourth :: rest) =
      (scanUnits 0 rest).map fun scanned => (.escaped code :: scanned.1, scanned.2) := by
  have scanned : scanEscape (char 'u' :: first :: second :: third :: fourth :: rest) =
      some (.escaped code, 5) := by
    rw [scanEscape, if_pos rfl, hex, Option.map_some]
  simp [scanUnits, scanned]

/-- A written character is read back as one unit. -/
theorem scanUnits_escapeCharacter (point : CodePoint) (rest : Text) :
    scanUnits 0 (escapeCharacter point ++ rest) =
      (scanUnits 0 rest).map fun scanned => (unitOf point :: scanned.1, scanned.2) := by
  by_cases letter : point ∈ ([char '"', char '\\', 10, 13, 9, 12, 8] : Text)
  · simp only [List.mem_cons, List.not_mem_nil, or_false] at letter
    rcases letter with rfl | rfl | rfl | rfl | rfl | rfl | rfl
    · exact scanUnits_simple (by decide) (by decide) rest
    · exact scanUnits_simple (by decide) (by decide) rest
    · exact scanUnits_simple (by decide) (by decide) rest
    · exact scanUnits_simple (by decide) (by decide) rest
    · exact scanUnits_simple (by decide) (by decide) rest
    · exact scanUnits_simple (by decide) (by decide) rest
    · exact scanUnits_simple (by decide) (by decide) rest
  · simp only [List.mem_cons, List.not_mem_nil, or_false, not_or] at letter
    obtain ⟨notQuote, notBackslash, notLine, notReturn, notTab, notForm, notBack⟩ := letter
    unfold escapeCharacter unitOf
    rw [if_neg notQuote, if_neg notBackslash, if_neg notLine, if_neg notReturn,
      if_neg notTab, if_neg notForm, if_neg notBack]
    by_cases control : point.val < 32
    · have noLetter : point ∉ ([8, 9, 10, 12, 13] : Text) := by
        simp [notLine, notReturn, notTab, notForm, notBack]
      rw [if_pos control, if_pos ⟨control, noLetter⟩]
      exact scanUnits_code (hexCode_control control rest)
    · rw [if_neg control, if_neg fun both => control both.1]
      exact scanUnits_plain notQuote notBackslash control rest

theorem scanUnits_escapeCharacters (points rest : Text) :
    scanUnits 0 (escapeCharacters points ++ char '"' :: rest) =
      some (points.map unitOf, rest) := by
  induction points with
  | nil => simp [escapeCharacters, scanUnits]
  | cons point points inductionHypothesis =>
      rw [escapeCharacters, List.flatMap_cons, List.append_assoc, scanUnits_escapeCharacter,
        ← escapeCharacters, inductionHypothesis]
      rfl

theorem joinSurrogates_map_unitOf (points : Text) :
    joinSurrogates (points.map unitOf) = points := by
  induction points with
  | nil => rfl
  | cons point points inductionHypothesis =>
      rw [List.map_cons]
      by_cases control : point.val < 32 ∧ point ∉ ([8, 9, 10, 12, 13] : Text)
      · have same : Fin.ofNat 0x110000 point.val = point :=
          Fin.ext (Nat.mod_eq_of_lt point.isLt)
        -- A control character is no surrogate, so the escape is not half of a pair.
        have noPair : forall low, isPair point.val low = false := by
          intro low
          simp only [isPair, Bool.and_eq_false_iff, decide_eq_false_iff_not]
          omega
        rw [unitOf, if_pos control]
        unfold joinSurrogates
        rw [same, inductionHypothesis]
        split
        · rw [if_neg (by rw [noPair]; decide)]
        · rfl
      · rw [unitOf, if_neg control]
        exact congrArg (point :: ·) inductionHypothesis

/-- A written string is read back. -/
theorem scanString_quoted (points rest : Text) :
    scanString (escapeCharacters points ++ char '"' :: rest) = some (points, rest) := by
  rw [scanString, scanUnits_escapeCharacters, Option.map_some]
  rw [joinSurrogates_map_unitOf]

/-! ## Numbers -/

def isDigit (point : CodePoint) : Bool :=
  48 ≤ point.val && point.val ≤ 57

/-- The parts that `NUMBER_RE` matches; the integer has its sign. -/
structure NumberToken where
  integer : Text
  fraction : Text
  exponent : Text

/-- One character of the given ones, if the text starts with one. -/
def scanOptional (accepted : Text) : Text -> Text × Text
  | [] => ([], [])
  | first :: rest => if first ∈ accepted then ([first], rest) else ([], first :: rest)

/-- `0|[1-9][0-9]*` -/
def scanInteger : Text -> Option (Text × Text)
  | [] => none
  | first :: rest =>
      if first = char '0' then some ([first], rest)
      else if isDigit first then
        some (first :: rest.takeWhile isDigit, rest.dropWhile isDigit)
      else none

/-- A mark, perhaps a sign, and digits; nothing where a part is missing. -/
def scanMarked (marks signs : Text) : Text -> Text × Text
  | [] => ([], [])
  | first :: rest =>
      let sign := scanOptional signs rest
      if first ∈ marks ∧ sign.2.takeWhile isDigit ≠ [] then
        (first :: sign.1 ++ sign.2.takeWhile isDigit, sign.2.dropWhile isDigit)
      else ([], first :: rest)

/-- `(-?(?:0|[1-9][0-9]*))(\.[0-9]+)?([eE][-+]?[0-9]+)?` -/
def scanNumber (points : Text) : Option (NumberToken × Text) :=
  let sign := scanOptional [char '-'] points
  (scanInteger sign.2).map fun integer =>
    let fraction := scanMarked [char '.'] [] integer.2
    let exponent := scanMarked [char 'e', char 'E'] [char '-', char '+'] fraction.2
    ({ integer := sign.1 ++ integer.1, fraction := fraction.1, exponent := exponent.1 },
      exponent.2)

/-- The text is at its end, or at the end of an element of an array or object. -/
def Ends (rest : Text) : Prop :=
  forall first, rest.head? = some first -> first ∈ ([char ',', char ']', char '}'] : Text)

theorem ends_nil : Ends [] :=
  fun _ isFirst => absurd isFirst.symm (Option.some_ne_none _)

theorem ends_cons
    {first : CodePoint}
    (closes : first ∈ ([char ',', char ']', char '}'] : Text))
    (rest : Text) :
    Ends (first :: rest) :=
  fun _ isFirst => Option.some.inj isFirst ▸ closes

/-- No number goes on at the start of the text. -/
def Stops (rest : Text) : Prop :=
  forall first, rest.head? = some first ->
    isDigit first = false ∧ first ∉ ([char '-', char '+', char '.', char 'e', char 'E'] : Text)

theorem stops_cons
    {first : CodePoint}
    (notDigit : isDigit first = false)
    (notMark : first ∉ ([char '-', char '+', char '.', char 'e', char 'E'] : Text))
    (rest : Text) :
    Stops (first :: rest) :=
  fun _ isFirst => Option.some.inj isFirst ▸ ⟨notDigit, notMark⟩

theorem Ends.stops {rest : Text} (ends : Ends rest) : Stops rest := by
  intro first isFirst
  have closes := ends first isFirst
  simp only [List.mem_cons, List.not_mem_nil, or_false] at closes
  rcases closes with rfl | rfl | rfl <;> decide

theorem takeWhile_digits_append
    {rest : Text}
    (stops : Stops rest)
    (points : Text) :
    (points ++ rest).takeWhile isDigit = points.takeWhile isDigit ∧
      (points ++ rest).dropWhile isDigit = points.dropWhile isDigit ++ rest := by
  induction points with
  | nil =>
      cases rest with
      | nil => exact ⟨rfl, rfl⟩
      | cons first rest => simp [(stops first rfl).1]
  | cons first points inductionHypothesis =>
      cases digit : isDigit first with
      | false => simp [digit]
      | true => simp [digit, inductionHypothesis]

theorem scanOptional_append
    {accepted rest : Text}
    (stops : Stops rest)
    (signs : forall sign, sign ∈ accepted ->
      sign ∈ ([char '-', char '+', char '.', char 'e', char 'E'] : Text))
    (points : Text) :
    scanOptional accepted (points ++ rest) =
      ((scanOptional accepted points).1, (scanOptional accepted points).2 ++ rest) := by
  cases points with
  | cons first points =>
      rw [List.cons_append, scanOptional, scanOptional]
      split <;> rfl
  | nil =>
      cases rest with
      | nil => rfl
      | cons first rest =>
          have noSign : first ∉ accepted := fun isSign => (stops first rfl).2 (signs first isSign)
          change scanOptional accepted (first :: rest) = ([], first :: rest)
          rw [scanOptional, if_neg noSign]

theorem scanInteger_append
    {points integer after rest : Text}
    (stops : Stops rest)
    (scanned : scanInteger points = some (integer, after)) :
    scanInteger (points ++ rest) = some (integer, after ++ rest) := by
  cases points with
  | nil => exact absurd scanned.symm (Option.some_ne_none _)
  | cons first points =>
      obtain ⟨sameDigits, sameRest⟩ := takeWhile_digits_append stops points
      rw [scanInteger] at scanned
      rw [List.cons_append, scanInteger, sameDigits, sameRest]
      split at scanned
      · next zero =>
          obtain ⟨rfl, rfl⟩ := Prod.mk.inj (Option.some.inj scanned)
          rw [if_pos zero]
      · next notZero =>
          split at scanned
          · next digit =>
              obtain ⟨rfl, rfl⟩ := Prod.mk.inj (Option.some.inj scanned)
              rw [if_neg notZero, if_pos digit]
          · exact absurd scanned.symm (Option.some_ne_none _)

theorem scanMarked_append
    {marks signs rest : Text}
    (stops : Stops rest)
    (areMarks : forall mark, mark ∈ marks ->
      mark ∈ ([char '-', char '+', char '.', char 'e', char 'E'] : Text))
    (areSigns : forall sign, sign ∈ signs ->
      sign ∈ ([char '-', char '+', char '.', char 'e', char 'E'] : Text))
    (points : Text) :
    scanMarked marks signs (points ++ rest) =
      ((scanMarked marks signs points).1, (scanMarked marks signs points).2 ++ rest) := by
  cases points with
  | cons first points =>
      obtain ⟨sameDigits, sameRest⟩ :=
        takeWhile_digits_append stops (scanOptional signs points).2
      rw [List.cons_append, scanMarked, scanMarked, scanOptional_append stops areSigns]
      simp only [sameDigits, sameRest]
      split <;> rfl
  | nil =>
      cases rest with
      | nil => rfl
      | cons first rest =>
          have noMark : first ∉ marks := fun isMark => (stops first rfl).2 (areMarks first isMark)
          change scanMarked marks signs (first :: rest) = ([], first :: rest)
          rw [scanMarked]
          simp only [noMark, false_and, if_false]

/-- A number is scanned the same before the end. -/
theorem scanNumber_append
    {points after rest : Text}
    {token : NumberToken}
    (stops : Stops rest)
    (scanned : scanNumber points = some (token, after)) :
    scanNumber (points ++ rest) = some (token, after ++ rest) := by
  obtain ⟨⟨integer, digits⟩, isInteger, same⟩ := Option.map_eq_some_iff.mp scanned
  obtain ⟨rfl, rfl⟩ := Prod.mk.inj same
  unfold scanNumber
  rw [scanOptional_append stops (by simp)]
  simp only [scanInteger_append stops isInteger, Option.map_some]
  rw [scanMarked_append stops (by simp) (by simp)]
  simp only
  rw [scanMarked_append stops (by simp) (by simp)]

/-- A number starts with a digit or a minus. -/
theorem scanNumber_head
    {points after : Text}
    {token : NumberToken}
    (scanned : scanNumber points = some (token, after)) :
    Exists fun first => Exists fun rest =>
      points = first :: rest ∧ (isDigit first = true ∨ first = char '-') := by
  obtain ⟨⟨integer, digits⟩, isInteger, _⟩ := Option.map_eq_some_iff.mp scanned
  cases points with
  | nil => exact absurd isInteger.symm (Option.some_ne_none _)
  | cons first rest =>
      refine ⟨first, rest, rfl, ?_⟩
      by_cases minus : first = char '-'
      · exact Or.inr minus
      · rw [scanOptional, if_neg (by simpa using minus), scanInteger] at isInteger
        split at isInteger
        · next zero =>
            rw [zero]
            exact Or.inl (by decide)
        · split at isInteger
          · next digit => exact Or.inl digit
          · exact absurd isInteger.symm (Option.some_ne_none _)

/-! ## Integers -/

def digitPoint (value : Nat) : CodePoint :=
  Fin.ofNat 0x110000 (48 + value)

/-- The decimal digits of a number. -/
def printNat (number : Nat) : Text :=
  if number = 0 then [char '0'] else (Nat.digits 10 number).reverse.map digitPoint

def readNat (points : Text) : Nat :=
  Nat.ofDigits 10 (points.reverse.map fun point => point.val - 48)

/-- `int.__repr__` -/
def printInt : Int -> Text
  | .ofNat number => printNat number
  | .negSucc number => char '-' :: printNat (number + 1)

/-- `int(points)` of an integer with its sign -/
def readInt : Text -> Int
  | [] => 0
  | first :: rest => if first = char '-' then -(readNat rest : Int) else readNat (first :: rest)

theorem isDigit_digitPoint {value : Nat} (small : value < 10) :
    isDigit (digitPoint value) = true ∧ (digitPoint value).val - 48 = value := by
  revert small value
  decide

theorem readNat_printNat (number : Nat) : readNat (printNat number) = number := by
  unfold readNat printNat
  split
  · next zero =>
      rw [zero]
      rfl
  · have values : ((Nat.digits 10 number).map digitPoint).map (fun point => point.val - 48) =
        Nat.digits 10 number := by
      rw [List.map_map]
      refine (List.map_congr_left fun value member => ?_).trans (List.map_id _)
      exact (isDigit_digitPoint (Nat.digits_lt_base (by decide) member)).2
    rw [← List.map_reverse, List.reverse_reverse, values, Nat.ofDigits_digits]

/-- A number that is not zero starts with a digit that is not zero. -/
theorem printNat_cons {number : Nat} (positive : number ≠ 0) :
    Exists fun first => Exists fun rest => printNat number = first :: rest ∧
      first ≠ char '0' ∧ isDigit first = true ∧ forall point, point ∈ rest -> isDigit point = true := by
  have notEmpty : Nat.digits 10 number ≠ [] := Nat.digits_ne_nil_iff_ne_zero.mpr positive
  have last := List.getLast_mem notEmpty
  have small := Nat.digits_lt_base (by decide : 1 < 10) last
  refine ⟨digitPoint ((Nat.digits 10 number).getLast notEmpty),
    ((Nat.digits 10 number).dropLast.reverse.map digitPoint), ?_, ?_,
    (isDigit_digitPoint small).1, ?_⟩
  · rw [printNat, if_neg positive]
    nth_rewrite 1 [← List.dropLast_append_getLast notEmpty]
    rw [List.reverse_append, List.reverse_singleton, List.singleton_append, List.map_cons]
  · intro zero
    have value := (isDigit_digitPoint small).2
    rw [zero] at value
    exact Nat.getLast_digit_ne_zero 10 positive value.symm
  · intro point member
    obtain ⟨value, isValue, rfl⟩ := List.mem_map.mp member
    have digit := List.dropLast_subset _ (List.mem_reverse.mp isValue)
    exact (isDigit_digitPoint (Nat.digits_lt_base (by decide) digit)).1

theorem scanInteger_printNat (number : Nat) :
    scanInteger (printNat number) = some (printNat number, []) := by
  by_cases zero : number = 0
  · rw [zero]
    rfl
  · obtain ⟨first, rest, same, notZero, digit, digits⟩ := printNat_cons zero
    rw [same, scanInteger, if_neg notZero, if_pos digit, List.takeWhile_eq_self_iff.mpr digits,
      List.dropWhile_eq_nil_iff.mpr digits]

theorem printNat_noMinus (number : Nat) :
    scanOptional [char '-'] (printNat number) = ([], printNat number) := by
  by_cases zero : number = 0
  · rw [zero]
    rfl
  · obtain ⟨first, rest, same, _, digit, _⟩ := printNat_cons zero
    have notMinus : first ∉ ([char '-'] : Text) := by
      rintro minus
      rw [List.mem_singleton.mp minus] at digit
      exact absurd digit (by decide)
    rw [same, scanOptional, if_neg notMinus]

/-- A written integer is scanned as a number without fraction and exponent. -/
theorem scanNumber_printInt (number : Int) :
    scanNumber (printInt number) =
      some ({ integer := printInt number, fraction := [], exponent := [] }, []) := by
  unfold scanNumber
  cases number with
  | ofNat number =>
      rw [printInt, printNat_noMinus]
      simp only [scanInteger_printNat, Option.map_some]
      rfl
  | negSucc number =>
      have minus : scanOptional [char '-'] (printInt (.negSucc number)) =
          ([char '-'], printNat (number + 1)) := rfl
      rw [minus]
      simp only [scanInteger_printNat, Option.map_some]
      rfl

theorem readInt_printInt (number : Int) : readInt (printInt number) = number := by
  cases number with
  | ofNat number =>
      rw [printInt]
      have noMinus := printNat_noMinus number
      have value := readNat_printNat number
      cases printed : printNat number with
      | nil =>
          rw [printed] at value
          rw [← value]
          rfl
      | cons first rest =>
          rw [printed] at noMinus value
          have notMinus : first ≠ char '-' := by
            rintro rfl
            exact absurd (congrArg (fun scanned => scanned.1) noMinus) (List.cons_ne_nil _ _)
          rw [readInt, if_neg notMinus, value]
          rfl
  | negSucc number =>
      rw [printInt, readInt, if_pos rfl, readNat_printNat]
      rfl

end Library
end LakehouseOps
