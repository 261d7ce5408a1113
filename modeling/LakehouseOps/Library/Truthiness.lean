import LakehouseOps.Library.CanonicalJson

/-!
# Truth of values

Which values Python takes for true, and fields of dictionaries that may be missing.
-/

namespace LakehouseOps
namespace Library
namespace Document

variable {Double : Type}

/-- `bool(value)`, with the floats that are zero. -/
def truthy (isZero : Double -> Bool) : Document Double -> Bool
  | .null => false
  | .bool value => value
  | .int value => value ≠ 0
  | .float value => !isZero value
  | .string value => value ≠ []
  | .array values => !values.isEmpty
  | .object entries => !entries.isEmpty

/-- `bool(fields.get(key))` -/
def truthyField (isZero : Double -> Bool) (fields : List (Text × Document Double)) (key : Text) :
    Bool :=
  match fields.lookup key with
  | some value => truthy isZero value
  | none => false

/-- `fields.get(key)`, where it is a text that is not empty -/
def textField (fields : List (Text × Document Double)) (key : Text) : Option Text :=
  match fields.lookup key with
  | some (.string (first :: rest)) => some (first :: rest)
  | _ => none

/-- `fields.get(key)`, where it is a list -/
def arrayField (fields : List (Text × Document Double)) (key : Text) :
    Option (List (Document Double)) :=
  match fields.lookup key with
  | some (.array values) => some values
  | _ => none

end Document
end Library
end LakehouseOps
