import Mathlib.Data.List.Basic

/-!
# JSON documents

The values that a JSON text loads to. An object is the list of its entries; a loaded
object has each key once.
-/

namespace LakehouseOps
namespace Library

/-- A value that `json.loads` returns. An object has each key once. -/
inductive Json
  | null
  | bool (value : Bool)
  | int (value : Int)
  | float (text : String)
  | string (value : String)
  | array (values : List Json)
  | object (entries : List (String × Json))

/-- The entries of an object. -/
abbrev Entries := List (String × Json)

/-- The fields that are not null. -/
def presentFields {Value : Type} (fields : List (String × Option Value)) :
    List (String × Value) :=
  fields.filterMap fun field => field.2.map fun value => (field.1, value)

theorem presentFields_cons {Value : Type} (field : String × Option Value)
    (fields : List (String × Option Value)) :
    presentFields (field :: fields) =
      (field.2.map fun value => (field.1, value)).toList ++ presentFields fields := by
  unfold presentFields
  rw [List.filterMap_cons]
  cases field.2 <;> rfl

theorem mem_names_of_present {Value : Type} {fields : List (String × Option Value)}
    {name : String} {value : Value}
    (member : (name, value) ∈ presentFields fields) :
    name ∈ fields.map Prod.fst := by
  obtain ⟨field, isField, isPresent⟩ := List.mem_filterMap.mp member
  obtain ⟨_, _, same⟩ := Option.map_eq_some_iff.mp isPresent
  rw [← (Prod.mk.inj same).1]
  exact List.mem_map_of_mem isField

/-- The fields that are not null tell all fields of given names. -/
theorem presentFields_injective
    {Value : Type}
    {left right : List (String × Option Value)}
    (names : left.map Prod.fst = right.map Prod.fst)
    (distinct : (left.map Prod.fst).Nodup)
    (same : presentFields left = presentFields right) :
    left = right := by
  induction left generalizing right with
  | nil => exact (List.map_eq_nil_iff.mp names.symm).symm
  | cons field left inductionHypothesis =>
      cases right with
      | nil => exact absurd names (List.cons_ne_nil _ _)
      | cons other right =>
          obtain ⟨name, value⟩ := field
          obtain ⟨otherName, otherValue⟩ := other
          obtain ⟨sameName, tailNames⟩ := List.cons.inj names
          obtain rfl : name = otherName := sameName
          obtain ⟨absent, tailDistinct⟩ := List.nodup_cons.mp distinct
          have notLeft : forall value : Value, (name, value) ∉ presentFields left :=
            fun value member => absent (mem_names_of_present member)
          have notRight : forall value : Value, (name, value) ∉ presentFields right :=
            fun value member => absent (tailNames ▸ mem_names_of_present member)
          rw [presentFields_cons, presentFields_cons] at same
          cases value with
          | none =>
              cases otherValue with
              | none => rw [inductionHypothesis tailNames tailDistinct same]
              | some value =>
                  have member : (name, value) ∈ presentFields left := by
                    rw [show presentFields left = _ from same]
                    exact List.mem_cons_self
                  exact absurd member (notLeft value)
          | some value =>
              cases otherValue with
              | none =>
                  have member : (name, value) ∈ presentFields right := by
                    rw [← show _ = presentFields right from same]
                    exact List.mem_cons_self
                  exact absurd member (notRight value)
              | some otherValue =>
                  obtain ⟨sameField, sameRest⟩ := List.cons.inj same
                  rw [(Prod.mk.inj sameField).2,
                    inductionHypothesis tailNames tailDistinct sameRest]

end Library
end LakehouseOps
