import LakehouseOps.Library.CodePoints

/-!
# Paths

The parts and the stem of a path, as `pathlib` splits it on a POSIX system.
-/

namespace LakehouseOps
namespace Library

/-- The place of the last occurrence of a character. -/
def rfind (point : CodePoint) (points : Text) : Option Nat :=
  if point ∈ points then
    some (points.length - 1 - (points.reverse.takeWhile fun other => other ≠ point).length)
  else none

/-- `PurePosixPath` -/
structure PosixPath where
  root : Text
  tail : List Text

namespace PosixPath

/-- `splitroot`: one slash, two slashes, or no root. -/
def splitRoot (points : Text) : Text × Text :=
  if points.head? ≠ some (char '/') then ([], points)
  else if points.tail.head? ≠ some (char '/') ∨ points.tail.tail.head? = some (char '/') then
    ([char '/'], points.tail)
  else ([char '/', char '/'], points.tail.tail)

/-- `Path(points)` -/
def ofText (points : Text) : PosixPath where
  root := (splitRoot points).1
  tail := ((splitRoot points).2.splitOn (char '/')).filter fun part =>
    part ≠ [] ∧ part ≠ [char '.']

def parts (path : PosixPath) : List Text :=
  if path.root = [] then path.tail else path.root :: path.tail

def name (path : PosixPath) : Text :=
  path.tail.getLast?.getD []

/-- The name without its last suffix. -/
def stem (path : PosixPath) : Text :=
  match rfind (char '.') path.name with
  | some index =>
      if 0 < index ∧ index < path.name.length - 1 then path.name.take index else path.name
  | none => path.name

def asPosix (path : PosixPath) : Text :=
  if path.root = [] ∧ path.tail = [] then [char '.']
  else path.root ++ [char '/'].intercalate path.tail

theorem ofText_intercalate
    {first : Text}
    {rest : List Text}
    (noSlash : forall part, part ∈ first :: rest -> char '/' ∉ part)
    (notEmpty : forall part, part ∈ first :: rest -> part ≠ [] ∧ part ≠ [char '.']) :
    ofText ([char '/'].intercalate (first :: rest)) = { root := [], tail := first :: rest } := by
  have split := List.splitOn_intercalate (char '/') noSlash (List.cons_ne_nil first rest)
  obtain ⟨point, points, isFirst⟩ := List.exists_cons_of_ne_nil
    (notEmpty first List.mem_cons_self).1
  have notSlash : point ≠ char '/' := by
    rintro rfl
    exact noSlash first List.mem_cons_self (isFirst ▸ List.mem_cons_self)
  have noRoot : splitRoot ([char '/'].intercalate (first :: rest)) =
      ([], [char '/'].intercalate (first :: rest)) := by
    have head : ([char '/'].intercalate (first :: rest)).head? = some point := by
      rw [isFirst]
      cases rest <;> rfl
    rw [splitRoot, head, if_pos (fun slash => notSlash (Option.some.inj slash))]
  rw [ofText, noRoot, split, List.filter_eq_self.mpr]
  intro part member
  exact decide_eq_true (notEmpty part member)

/-- The stem of a name with one suffix, whose stem has no dot. -/
theorem stem_append
    {path : PosixPath}
    {base extension : Text}
    (isName : path.name = base ++ char '.' :: extension)
    (notEmpty : base ≠ [])
    (hasExtension : extension ≠ [])
    (noDot : char '.' ∉ extension) :
    path.stem = base := by
  have after : (path.name.reverse.takeWhile fun other => other ≠ char '.') =
      extension.reverse := by
    rw [isName, List.reverse_append, List.reverse_cons, List.append_assoc,
      List.takeWhile_append_of_pos]
    · simp
    · intro point member
      refine decide_eq_true ?_
      rintro rfl
      exact noDot (List.mem_reverse.mp member)
  have found : rfind (char '.') path.name = some base.length := by
    rw [rfind, after, isName, if_pos (List.mem_append_right _ List.mem_cons_self)]
    simp only [List.length_append, List.length_cons, List.length_reverse]
    congr 1
    omega
  have positive := List.length_pos_of_ne_nil notEmpty
  have longer := List.length_pos_of_ne_nil hasExtension
  unfold stem
  rw [found]
  simp only
  rw [if_pos ⟨positive, by rw [isName, List.length_append, List.length_cons]; omega⟩, isName,
    List.take_left]

end PosixPath
end Library
end LakehouseOps
