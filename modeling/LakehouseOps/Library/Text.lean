import Mathlib.Data.List.Basic

/-!
# Texts

Operations of Python on texts, by recursion on the characters.
-/

namespace LakehouseOps
namespace Library

/-- `text.split(separator)` -/
def splitText (separator : Char) (text : String) : List String :=
  (text.toList.splitOn separator).map String.ofList

/-- Replace the pattern from left to right; the count is what is left of an occurrence. -/
def replaceCharacters (pattern replacement : List Char) : Nat -> List Char -> List Char
  | _, [] => []
  | count + 1, _ :: rest => replaceCharacters pattern replacement count rest
  | 0, character :: rest =>
      if pattern.isPrefixOf (character :: rest) then
        replacement ++ replaceCharacters pattern replacement (pattern.length - 1) rest
      else character :: replaceCharacters pattern replacement 0 rest

/-- `text.replace(pattern, replacement)`, for a pattern that is not empty -/
def replaceText (text pattern replacement : String) : String :=
  String.ofList (replaceCharacters pattern.toList replacement.toList 0 text.toList)

/-- The characters that Python takes for white space. -/
def isSpace (character : Char) : Bool :=
  let code := character.toNat
  (9 ≤ code && code ≤ 13) || (28 ≤ code && code ≤ 32) || code = 133 || code = 160 ||
    code = 5760 || (8192 ≤ code && code ≤ 8202) || code = 8232 || code = 8233 ||
    code = 8239 || code = 8287 || code = 12288

/-- `text.strip()` -/
def stripText (text : String) : String :=
  String.ofList (((text.toList.dropWhile isSpace).reverse.dropWhile isSpace).reverse)

end Library
end LakehouseOps
