import Mathlib
import LakehouseOps.Library.Table

/-!
# Totals of a table

A total of a table is the total of the totals of its groups. Sums of 64 bits are the sums
of the integers, wrapped; sums that are not negative lose nothing exactly when each of them
fits.
-/

namespace LakehouseOps
namespace Library
namespace Table

variable {Row Key Total : Type*}

/-! ## Groups -/

section Groups

variable [DecidableEq Key] {key : Row -> Key} {values : List Key} {rows : List Row}

/-- The totals of the rows of distinct keys that cover a table add up to its total. -/
theorem sum_rowsOf
    [AddCommMonoid Total]
    (amount : Row -> Total)
    (distinct : values.Nodup)
    (covers : forall row, row ∈ rows -> key row ∈ values) :
    (values.map fun value => ((rowsOf key value rows).map amount).sum).sum =
      (rows.map amount).sum := by
  have whole := ((flatMap_rowsOf_perm distinct covers).map amount).sum_eq
  rw [← whole, List.map_flatMap, List.flatMap_def, List.sum_flatten, List.map_map]
  rfl

/-- The totals of the groups of a table add up to its total. -/
theorem sum_keys
    [AddCommMonoid Total]
    (key : Row -> Key)
    (amount : Row -> Total)
    (rows : List Row) :
    ((keys key rows).map fun value => ((rowsOf key value rows).map amount).sum).sum =
      (rows.map amount).sum :=
  sum_rowsOf amount (List.nodup_dedup _) fun row member => mem_keys.mpr ⟨row, member, rfl⟩

end Groups

/-- A count is the sum of ones. -/
theorem countP_eq_sum (condition : Row -> Bool) (rows : List Row) :
    rows.countP condition = (rows.map fun row => if condition row then 1 else 0).sum := by
  induction rows with
  | nil => rfl
  | cons row rows inductionHypothesis =>
      rw [List.countP_cons, List.map_cons, List.sum_cons, inductionHypothesis, Nat.add_comm]

/-! ## Sums of 64 bits -/

theorem toInt_sum (values : List Int64) :
    (values.foldr (· + ·) 0).toInt = ((values.map Int64.toInt).sum).bmod (2 ^ 64) := by
  induction values with
  | nil => rfl
  | cons value values inductionHypothesis =>
      rw [List.foldr_cons, Int64.toInt_add, inductionHypothesis, Int.add_bmod_bmod,
        List.map_cons, List.sum_cons]

/-- Sums of wrapped sums wrap as the sum of all. -/
theorem bmod_sum_bmod (totals : List Int) :
    ((totals.map fun total : Int => total.bmod (2 ^ 64)).sum).bmod (2 ^ 64) =
      totals.sum.bmod (2 ^ 64) := by
  induction totals with
  | nil => rfl
  | cons total totals inductionHypothesis =>
      rw [List.map_cons, List.sum_cons, List.sum_cons, Int.bmod_add_bmod, ← Int.add_bmod_bmod,
        inductionHypothesis, Int.add_bmod_bmod]

/-- Wrapping makes a sum that is not negative no greater. -/
theorem bmod_le {total : Int} (nonnegative : 0 ≤ total) : total.bmod (2 ^ 64) ≤ total := by
  rw [Int.bmod_def]
  split <;> omega

theorem bmod_eq_self_iff {total : Int} (nonnegative : 0 ≤ total) :
    total.bmod (2 ^ 64) = total ↔ total < 2 ^ 63 := by
  rw [Int.bmod_def]
  split <;> omega

/-- Wrapped sums add up to the sum of all exactly when none of them is wrapped. -/
theorem sum_bmod_eq_iff
    {totals : List Int}
    (nonnegative : forall total, total ∈ totals -> 0 ≤ total) :
    (totals.map fun total : Int => total.bmod (2 ^ 64)).sum = totals.sum ↔
      forall total, total ∈ totals -> total < 2 ^ 63 := by
  have atMost : forall totals : List Int, (forall total, total ∈ totals -> 0 ≤ total) ->
      (totals.map fun total : Int => total.bmod (2 ^ 64)).sum ≤ totals.sum := by
    intro totals nonnegative
    induction totals with
    | nil => rfl
    | cons total totals inductionHypothesis =>
        obtain ⟨first, rest⟩ := List.forall_mem_cons.mp nonnegative
        rw [List.map_cons, List.sum_cons, List.sum_cons]
        exact Int.add_le_add (bmod_le first) (inductionHypothesis rest)
  induction totals with
  | nil => simp
  | cons total totals inductionHypothesis =>
      obtain ⟨first, rest⟩ := List.forall_mem_cons.mp nonnegative
      have head := bmod_le first
      have tail := atMost totals rest
      rw [List.map_cons, List.sum_cons, List.sum_cons, List.forall_mem_cons]
      have restFits := inductionHypothesis rest
      have firstFits := bmod_eq_self_iff first
      constructor
      · intro same
        exact ⟨firstFits.mp (by omega), restFits.mp (by omega)⟩
      · rintro ⟨fits, allFit⟩
        rw [firstFits.mpr fits, restFits.mpr allFit]

end Table
end Library
end LakehouseOps
