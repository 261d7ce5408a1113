import Mathlib
import LakehouseOps.Library.Text

/-!
# Texts of code points

A Python string is a list of code points, and a code point may be a surrogate. Only a
text without surrogates can be encoded, and the bytes tell the text.
-/

namespace LakehouseOps
namespace Library

/-- A character of a Python string. -/
abbrev CodePoint := Fin 0x110000

instance instNeZeroCodePoints : NeZero 0x110000 :=
  ⟨by decide⟩

instance instLawfulBEqCodePoint : LawfulBEq CodePoint :=
  inferInstance

/-- A Python string. -/
abbrev Text := List CodePoint

instance instLawfulBEqText : LawfulBEq Text :=
  inferInstance

/-- The code point of a character. -/
def char (character : Char) : CodePoint :=
  ⟨character.toNat, by
    rcases character.valid with low | high
    · exact Nat.lt_trans low (by decide)
    · exact high.2⟩

@[simp] theorem char_inj {left right : Char} : char left = char right ↔ left = right := by
  constructor
  · intro same
    exact Char.ext (UInt32.toNat_inj.mp (Fin.mk.inj same))
  · exact congrArg char

/-- The text of a string without surrogates. -/
def text (string : String) : Text :=
  string.toList.map char

/-- The character of a code point that is not a surrogate. -/
def toChar? (point : CodePoint) : Option Char :=
  if valid : point.val.isValidChar then some (Char.ofNatAux point.val valid) else none

theorem char_of_toChar?
    {point : CodePoint}
    {character : Char}
    (isCharacter : toChar? point = some character) :
    char character = point := by
  unfold toChar? at isCharacter
  split at isCharacter
  · rw [← Option.some.inj isCharacter]
    rfl
  · exact absurd isCharacter.symm (Option.some_ne_none _)

/-- The characters of a text without surrogates. -/
def toChars? : Text -> Option (List Char)
  | [] => some []
  | point :: rest => do
      let first <- toChar? point
      let others <- toChars? rest
      return first :: others

theorem map_char_of_toChars?
    {points : Text}
    {characters : List Char}
    (areCharacters : toChars? points = some characters) :
    characters.map char = points := by
  induction points generalizing characters with
  | nil =>
      rw [← Option.some.inj areCharacters]
      rfl
  | cons point rest inductionHypothesis =>
      obtain ⟨first, isFirst, others⟩ := Option.bind_eq_some_iff.mp areCharacters
      obtain ⟨tail, isTail, same⟩ := Option.bind_eq_some_iff.mp others
      rw [← Option.some.inj same, List.map_cons, char_of_toChar? isFirst,
        inductionHypothesis isTail]

/-! ## UTF-8 -/

/-- `points.encode("utf-8")`, unless there is a surrogate. -/
def encodeUtf8 (points : Text) : Option ByteArray :=
  (toChars? points).map fun characters => (String.ofList characters).toUTF8

/-- The text of bytes that are valid UTF-8. -/
def decodeUtf8 (bytes : ByteArray) : Option Text :=
  (String.fromUTF8? bytes).map fun string => string.toList.map char

theorem decodeUtf8_encodeUtf8
    {points : Text}
    {bytes : ByteArray}
    (encoded : encodeUtf8 points = some bytes) :
    decodeUtf8 bytes = some points := by
  obtain ⟨characters, areCharacters, rfl⟩ := Option.map_eq_some_iff.mp encoded
  have decoded : String.fromUTF8? (String.ofList characters).toUTF8 =
      some (String.ofList characters) := by
    unfold String.fromUTF8?
    exact dif_pos (String.ofList characters).isValidUTF8
  rw [decodeUtf8, decoded, Option.map_some, String.toList_ofList,
    map_char_of_toChars? areCharacters]

/-- Texts with the same bytes are the same. -/
theorem encodeUtf8_injective
    {left right : Text}
    {bytes : ByteArray}
    (leftEncoded : encodeUtf8 left = some bytes)
    (rightEncoded : encodeUtf8 right = some bytes) :
    left = right :=
  Option.some.inj ((decodeUtf8_encodeUtf8 leftEncoded).symm.trans
    (decodeUtf8_encodeUtf8 rightEncoded))

/-! ## White space -/

/-- Whether Python takes the code point for white space. -/
def isSpacePoint (point : CodePoint) : Bool :=
  isSpace (Char.ofNat point.val)

/-- `points.strip()` -/
def stripPoints (points : Text) : Text :=
  ((points.dropWhile isSpacePoint).reverse.dropWhile isSpacePoint).reverse

theorem dropWhile_space
    {points : Text}
    (noSpace : forall point, point ∈ points -> isSpacePoint point = false) :
    points.dropWhile isSpacePoint = points := by
  cases points with
  | nil => rfl
  | cons point rest =>
      rw [List.dropWhile_cons_of_neg]
      simp [noSpace point List.mem_cons_self]

theorem stripPoints_eq_self
    {points : Text}
    (noSpace : forall point, point ∈ points -> isSpacePoint point = false) :
    stripPoints points = points := by
  unfold stripPoints
  rw [dropWhile_space noSpace,
    dropWhile_space fun point member => noSpace point (List.mem_reverse.mp member),
    List.reverse_reverse]

end Library
end LakehouseOps
