import LakehouseOps.Spark.SilverCommerceBatches

/-!
# Survivors of repeated keys

The jobs rank the rows of a key before they judge them, so a key with a valid row keeps
one exactly when the first row of the key is valid.
-/

namespace LakehouseOps
namespace Spark
namespace SilverCommerce

open Library Library.Table

/-- In each of the three classifications, the keys with a valid row keep one of their valid
rows and no other exactly when their first rows are valid. -/
theorem survivors_kept_iff
    (batchId : String)
    (customerTable : List (BronzeRow Customers.CustomerColumns))
    (productTable : List (BronzeRow Products.ProductColumns))
    (orderTable : List (BronzeRow Orders.OrderColumns)) :
    (KeepsSurvivor Customers.businessKey hashOrder Customers.rules
        (ofBatch batchId customerTable) (Customers.classify (ofBatch batchId customerTable)) ↔
      FirstPasses Customers.businessKey hashOrder Customers.rules
        (ofBatch batchId customerTable)) ∧
    (KeepsSurvivor Products.businessKey hashOrder Products.rules
        (ofBatch batchId productTable) (Products.classify (ofBatch batchId productTable)) ↔
      FirstPasses Products.businessKey hashOrder Products.rules
        (ofBatch batchId productTable)) ∧
    (KeepsSurvivor Orders.businessKey Orders.orderOrder
        (Orders.referenceRules customerTable productTable batchId) (ofBatch batchId orderTable)
        (Orders.classify customerTable productTable batchId (ofBatch batchId orderTable)) ↔
      FirstPasses Orders.businessKey Orders.orderOrder
        (Orders.referenceRules customerTable productTable batchId)
        (ofBatch batchId orderTable)) := by
  refine ⟨keepsSurvivor_iff, keepsSurvivor_iff, ?_⟩
  rw [Orders.classify_eq]
  exact keepsSurvivor_iff

/-- An order, and a later ingestion of it with no piece. -/
def reingestedOrder : List (BronzeRow Orders.OrderColumns) :=
  sampleOrders ++ sampleOrders.map fun row =>
    { row with
      sourceRowHash := { text := "0b", hex := by decide }
      columns := { row.columns with quantity := some 0, ingestedAt := some 1 } }

theorem reingested_order_keeps_none :
    ¬KeepsSurvivor Orders.businessKey Orders.orderOrder
      (Orders.referenceRules sampleCustomers sampleProducts "b1") (ofBatch "b1" reingestedOrder)
      (Orders.classify sampleCustomers sampleProducts "b1" (ofBatch "b1" reingestedOrder)) := by
  rw [Orders.classify_eq, keepsSurvivor_iff]
  intro firstPasses
  have passes := firstPasses _ List.mem_cons_self (by decide) _ rfl
  exact absurd passes (by decide)

end SilverCommerce
end Spark
end LakehouseOps
