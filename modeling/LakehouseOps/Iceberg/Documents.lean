import LakehouseOps.Library.Datetime
import LakehouseOps.Library.Fallible
import LakehouseOps.Library.Json
import LakehouseOps.Library.Text

/-!
# Maintenance documents

Plans, reports and the rows of the SQL engine are JSON documents. The planner and the
executor read them field by field with the same few readers. What Python's standard
library computes on texts and documents is a parameter.
-/

namespace LakehouseOps
namespace Iceberg

open Library Library.Fallible

/-- What the modules use of Python's standard library. -/
structure Python where
  /-- The characters that `str.isdigit` accepts. -/
  isDigit : Char -> Bool
  /-- `str(value)` -/
  str : Json -> String
  str_string : forall text, str (.string text) = text
  fromisoformat : String -> Option Datetime
  /-- `json.dumps(value, sort_keys=True, separators=(",", ":"))` -/
  dumps : Json -> String
  /-- `hashlib.sha256(value.encode("utf-8")).hexdigest()` -/
  sha256 : String -> String

/-- Rows of a query. -/
abbrev Rows := List Entries

/-! ## Readers of fields -/

/-- `_object` -/
def objectField (value : Entries) (key : String) : Except String Entries :=
  match value.lookup key with
  | some (.object entries) => .ok entries
  | _ => .error (key ++ " must be an object")

/-- `_string` -/
def stringField (value : Entries) (key : String) : Except String String :=
  match value.lookup key with
  | some (.string text) =>
      if text = "" then .error (key ++ " must be a non-empty string") else .ok text
  | _ => .error (key ++ " must be a non-empty string")

/-- `_integer` -/
def integerField (value : Entries) (key : String) : Except String Int :=
  match value.lookup key with
  | some (.int number) =>
      if number < 0 then .error (key ++ " must be a non-negative integer") else .ok number
  | _ => .error (key ++ " must be a non-negative integer")

/-- `_positive_bound` -/
def positiveBound (safety : Entries) (key : String) : Except String Int := do
  let value <- integerField safety key
  reject (value ≤ 0) (key ++ " must be positive")
  return value

/-- `text.isdigit()` -/
def Python.isDigits (python : Python) (text : String) : Bool :=
  text ≠ "" && text.toList.all python.isDigit

/-- An item of `_string_array`. -/
def snapshotIdItem (python : Python) (key : String) : Json -> Except String String
  | .string text =>
      if python.isDigits text then .ok text
      else .error (key ++ " must contain decimal snapshot IDs")
  | _ => .error (key ++ " must contain decimal snapshot IDs")

/-- `_string_array` -/
def stringArrayField (python : Python) (value : Entries) (key : String) :
    Except String (List String) :=
  match value.lookup key with
  | some (.array items) => items.mapM (snapshotIdItem python key)
  | _ => .error (key ++ " must be an array")

theorem objectField_eq_ok_iff {value entries : Entries} {key : String} :
    objectField value key = .ok entries ↔ value.lookup key = some (.object entries) := by
  unfold objectField
  split
  · next found present => simp [present]
  · next other =>
      simp only [reduceCtorEq, false_iff]
      exact other entries

theorem stringField_eq_ok_iff {value : Entries} {key text : String} :
    stringField value key = .ok text ↔
      value.lookup key = some (.string text) ∧ text ≠ "" := by
  unfold stringField
  split
  · next found present =>
      by_cases empty : found = ""
      · simp only [empty, if_true, present, reduceCtorEq, Option.some.injEq, Json.string.injEq,
          false_iff, not_and, not_not]
        exact fun same => same.symm
      · simp only [empty, if_false, present, Except.ok.injEq, Option.some.injEq,
          Json.string.injEq]
        constructor
        · rintro rfl
          exact ⟨rfl, empty⟩
        · exact fun both => both.1
  · next other =>
      simp only [reduceCtorEq, false_iff, not_and]
      exact fun present => absurd present (other text)

theorem integerField_eq_ok_iff {value : Entries} {key : String} {number : Int} :
    integerField value key = .ok number ↔
      value.lookup key = some (.int number) ∧ 0 ≤ number := by
  unfold integerField
  split
  · next found present =>
      by_cases negative : found < 0
      · simp only [negative, if_true, present, reduceCtorEq, Option.some.injEq, Json.int.injEq,
          false_iff, not_and]
        rintro rfl
        omega
      · simp only [negative, if_false, present, Except.ok.injEq, Option.some.injEq,
          Json.int.injEq]
        constructor
        · rintro rfl
          exact ⟨rfl, by omega⟩
        · exact fun both => both.1
  · next other =>
      simp only [reduceCtorEq, false_iff, not_and]
      exact fun present => absurd present (other number)

theorem positiveBound_eq_ok_iff {safety : Entries} {key : String} {bound : Int} :
    positiveBound safety key = .ok bound ↔
      safety.lookup key = some (.int bound) ∧ 0 < bound := by
  simp only [positiveBound, bind_eq_ok_iff, integerField_eq_ok_iff, reject_eq_ok_iff]
  constructor
  · rintro ⟨value, ⟨present, _⟩, _, positive, returned⟩
    injection returned with same
    subst same
    exact ⟨present, by omega⟩
  · rintro ⟨present, positive⟩
    exact ⟨bound, ⟨present, by omega⟩, (), by omega, rfl⟩

/-- The array of some snapshot ids. -/
def idArray (ids : List String) : Json :=
  .array (ids.map Json.string)

theorem snapshotIdItem_eq_ok_iff {python : Python} {key text : String} {item : Json} :
    snapshotIdItem python key item = .ok text ↔
      item = .string text ∧ python.isDigits text = true := by
  cases item <;> simp only [snapshotIdItem, reduceCtorEq, false_and]
  next value =>
    split
    · next digits =>
        simp only [Except.ok.injEq, Json.string.injEq]
        constructor
        · rintro rfl
          exact ⟨rfl, digits⟩
        · exact fun both => both.1
    · next notDigits =>
        simp only [reduceCtorEq, Json.string.injEq, false_iff, not_and]
        rintro rfl
        exact notDigits

theorem stringArrayField_eq_ok_iff
    {python : Python}
    {value : Entries}
    {key : String}
    {ids : List String} :
    stringArrayField python value key = .ok ids ↔
      value.lookup key = some (idArray ids) ∧
        forall id, id ∈ ids -> python.isDigits id = true := by
  have items : forall array : List Json,
      array.mapM (snapshotIdItem python key) = .ok ids ↔
        array = ids.map Json.string ∧ forall id, id ∈ ids -> python.isDigits id = true := by
    intro array
    induction array generalizing ids with
    | nil =>
        simp only [List.mapM_nil, pure, Except.pure, Except.ok.injEq]
        constructor
        · rintro rfl
          simp
        · rintro ⟨none, _⟩
          exact (List.map_eq_nil_iff.mp none.symm).symm
    | cons item array inductionHypothesis =>
        simp only [List.mapM_cons, bind_eq_ok_iff, snapshotIdItem_eq_ok_iff,
          inductionHypothesis]
        constructor
        · rintro ⟨first, ⟨rfl, digits⟩, rest, ⟨rfl, restDigits⟩, returned⟩
          injection returned with same
          subst same
          exact ⟨rfl, List.forall_mem_cons.mpr ⟨digits, restDigits⟩⟩
        · rintro ⟨split, digits⟩
          cases ids with
          | nil => simp at split
          | cons first rest =>
              rw [List.map_cons, List.cons.injEq] at split
              rw [List.forall_mem_cons] at digits
              exact ⟨first, ⟨split.1, digits.1⟩, rest, ⟨split.2, digits.2⟩, rfl⟩
  unfold stringArrayField
  split
  · next array present => simp [items, present, idArray]
  · next other =>
      simp only [reduceCtorEq, false_iff, not_and]
      exact fun present => absurd present (other _)

/-! ## Tables and times -/

/-- The parts of a table's name. -/
structure TableParts where
  catalog : String
  namespaceName : String
  name : String
  deriving DecidableEq

/-- A part of a table's name that the executor refuses. -/
def badPart (part : String) : Bool :=
  part = "" || '\x00' ∈ part.toList

/-- `_table_parts` -/
def tableParts (table : String) : Except String TableParts :=
  match splitText '.' table with
  | [catalog, namespaceName, name] =>
      if badPart catalog || badPart namespaceName || badPart name then
        .error "table must contain catalog, namespace, and name"
      else .ok { catalog, namespaceName, name }
  | _ => .error "table must contain catalog, namespace, and name"

/-- `_timestamp_literal`: the time in UTC that the literal shows. -/
def timestampLiteral (python : Python) (value : String) : Except String Int :=
  match python.fromisoformat (replaceText value "Z" "+00:00") with
  | none => .error "older_than must be an ISO timestamp"
  | some parsed =>
      if parsed.aware then
        match parsed.toUtc with
        | none => .error "date value out of range"
        | some utc => .ok utc
      else .error "older_than must include a timezone"

end Iceberg
end LakehouseOps
