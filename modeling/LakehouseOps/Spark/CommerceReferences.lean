import LakehouseOps.Spark.GoldCommerceDaily
import LakehouseOps.Spark.SilverCommerceBatches

/-!
# References of validated orders

The order job looks its customers and products up in bronze, the daily mart looks them up
in silver. The two agree exactly when the first bronze row of every id that an accepted
order refers to is itself accepted; otherwise the mart stops.
-/

namespace LakehouseOps
namespace Spark
namespace GoldCommerceDaily

open Library Library.Table Library.Fallible
open SilverCommerce
open SilverCommerce.Customers (CustomerColumns CustomerSilver)
open SilverCommerce.Products (ProductColumns)
open SilverCommerce.Orders (OrderColumns OrderSilver)
open SilverCommerce.Payments (PaymentColumns)

/-! ## Tables of the silver jobs -/

/-- The tables of a batch are what the four silver jobs made of the bronze tables. -/
structure ProducedSources
    (sha2 : String -> Digest)
    (batchId : String)
    (bronzeCustomers : List (BronzeRow CustomerColumns))
    (bronzeProducts : List (BronzeRow ProductColumns))
    (sources : Sources) : Prop where
  customers : Produced Customers.job sha2 bronzeCustomers batchId sources.customers
  products : Produced Products.job sha2 bronzeProducts batchId sources.products
  orders : Produced (Orders.job bronzeCustomers bronzeProducts batchId) sha2
    sources.bronzeOrders batchId sources.orders
  payments : Produced Payments.job sha2 sources.bronzePayments batchId sources.payments

section Keys

variable {Columns SilverColumns RejectColumns Rank : Type} [LinearOrder Rank]
  {job : SilverJob Columns SilverColumns RejectColumns} {sha2 : String -> Digest}
  {batchId : String} {bronzeTable : List (BronzeRow Columns)}
  {tables : SilverTables SilverColumns RejectColumns}
  {key : BronzeRow Columns -> Option String} {order : BronzeRow Columns -> Rank}
  {rules : BronzeRow Columns -> List (Bool × String)} {duplicate : String}

/-- The silver rows of a batch are its accepted bronze rows. -/
theorem mem_silver_iff
    (lawful : job.Lawful)
    (produced : Produced job sha2 bronzeTable batchId tables)
    (classifies : forall source,
      job.classify source = classifyRanked key order rules duplicate source)
    {row : SilverRow SilverColumns} :
    row ∈ silverOfBatch batchId tables.silver ↔
      Exists fun bronze : BronzeRow Columns =>
        (leading key order (key bronze) (ofBatch batchId bronzeTable) = some bronze ∧
          Passing rules bronze) ∧ job.silverRow bronze = row := by
  rw [(produced.rows lawful).1, SilverJob.valid, classifies, List.mem_map]
  constructor
  · rintro ⟨entry, member, rfl⟩
    exact ⟨entry.row, mem_accepted_iff.mp (List.mem_map_of_mem member), rfl⟩
  · rintro ⟨bronze, isAccepted, rfl⟩
    obtain ⟨entry, member, rfl⟩ := List.mem_map.mp (mem_accepted_iff.mpr isAccepted)
    exact ⟨entry, member, rfl⟩

/-- The first bronze row of an id is accepted. -/
def FirstAccepted
    (key : BronzeRow Columns -> Option String)
    (rules : BronzeRow Columns -> List (Bool × String))
    (bronze : List (BronzeRow Columns))
    (id : Option String) : Prop :=
  Exists fun first => leading key hashOrder id bronze = some first ∧ Passing rules first

/-- An id that is not null matches a silver row when its first bronze row is accepted. -/
theorem exists_silver_iff
    (lawful : job.Lawful)
    (produced : Produced job sha2 bronzeTable batchId tables)
    (classifies : forall source,
      job.classify source = classifyRanked key hashOrder rules duplicate source)
    (column : SilverColumns -> Option String)
    (isKey : forall row, column (job.silverColumns row) = key row)
    {id : Option String}
    (present : id.isSome = true) :
    (Exists fun row => row ∈ silverOfBatch batchId tables.silver ∧
        sqlEq id (column row.columns) = true) ↔
      FirstAccepted key rules (ofBatch batchId bronzeTable) id := by
  simp only [mem_silver_iff lawful produced classifies, sqlEq, present, Bool.true_and,
    decide_eq_true_eq]
  constructor
  · rintro ⟨_, ⟨bronze, ⟨isFirst, passes⟩, rfl⟩, same⟩
    rw [SilverJob.silverRow, isKey] at same
    exact ⟨bronze, same ▸ isFirst, passes⟩
  · rintro ⟨first, isFirst, passes⟩
    have ofKey := (leading_mem isFirst).2
    exact ⟨_, ⟨first, ⟨ofKey ▸ isFirst, passes⟩, rfl⟩, by rw [SilverJob.silverRow, isKey, ofKey]⟩

end Keys

/-! ## The check of the mart -/

variable {sha2 : String -> Digest} {batchId : String}
  {bronzeCustomers : List (BronzeRow CustomerColumns)}
  {bronzeProducts : List (BronzeRow ProductColumns)} {sources : Sources}

/-- An order refers to a customer and to a product in silver. -/
structure Validated (batchId : String) (sources : Sources) (order : OrderColumns) : Prop where
  customer : Exists fun row => row ∈ silverOfBatch batchId sources.customers.silver ∧
    sqlEq order.customerId row.columns.customerId = true
  product : Exists fun row => row ∈ silverOfBatch batchId sources.products.silver ∧
    sqlEq order.productId row.columns.productId = true

/-- Every order in silver refers to a customer and to a product in silver. -/
def ReferencesValidated (batchId : String) (sources : Sources) : Prop :=
  forall order, order ∈ silverOfBatch batchId sources.orders.silver ->
    Validated batchId sources order.columns.toOrderColumns

/-- A column has no unvalidated value when each one matches a known value. -/
theorem unvalidated_eq_nil_iff
    {Known : Type}
    {column : OrderColumns -> Option String}
    {id : Known -> Option String}
    {known : List Known}
    {orders : List SilverOrder} :
    unvalidated column (known.map id) orders = [] ↔
      forall order, order ∈ orders -> Exists fun row => row ∈ known ∧
        sqlEq (column order.columns.toOrderColumns) (id row) = true := by
  simp only [unvalidated, leftAnti_eq_nil_iff, List.mem_map, exists_exists_and_eq_and]

theorem referencesValidated_iff :
    ReferencesValidated batchId sources ↔
      unvalidated OrderColumns.customerId
          ((silverOfBatch batchId sources.customers.silver).map fun customer =>
            customer.columns.customerId)
          (silverOfBatch batchId sources.orders.silver) = [] ∧
        unvalidated OrderColumns.productId
          ((silverOfBatch batchId sources.products.silver).map fun product =>
            product.columns.productId)
          (silverOfBatch batchId sources.orders.silver) = [] := by
  rw [unvalidated_eq_nil_iff, unvalidated_eq_nil_iff]
  constructor
  · intro validated
    exact ⟨fun order member => (validated order member).customer,
      fun order member => (validated order member).product⟩
  · rintro ⟨customers, products⟩ order member
    exact ⟨customers order member, products order member⟩

/-- The two messages of the check of references. -/
def unvalidatedErrors : List String :=
  ["commerce orders reference unvalidated customer_id",
    "commerce orders reference unvalidated product_id"]

/-- The first message names the batch, so it is none of the two. -/
theorem incomplete_notMem (batchId : String) :
    "selected commerce batch is empty or incomplete: " ++ batchId ∉ unvalidatedErrors := by
  intro member
  have starts := List.mem_map_of_mem (f := fun text : String => text.toList.head?) member
  rw [String.toList_append, List.head?_append] at starts
  change some 's' ∈ _ at starts
  exact absurd starts (by decide)

/-- The check of references fails only where a reference is not validated. -/
theorem validateSources_ne_error
    (validated : ReferencesValidated batchId sources)
    {message : String}
    (isCheck : message ∈ unvalidatedErrors) :
    validateSources batchId sources ≠ .error message := by
  obtain ⟨customers, products⟩ := referencesValidated_iff.mp validated
  intro failed
  simp only [validateSources, reject_bind_eq_error_iff, customers, products, ne_eq,
    not_true_eq_false, false_and, false_or, not_false_eq_true, true_and] at failed
  rcases failed with ⟨_, rfl⟩ | ⟨_, ⟨_, rfl⟩ | ⟨_, ⟨_, rfl⟩ | ⟨_, ⟨_, rfl⟩ | ⟨_, failed⟩⟩⟩⟩
  · exact incomplete_notMem batchId isCheck
  · exact absurd isCheck (by decide)
  · exact absurd isCheck (by decide)
  · exact absurd isCheck (by decide)
  rcases failed with ⟨_, rfl⟩ | ⟨_, returned⟩
  · exact absurd isCheck (by decide)
  · cases returned

/-- The job passes its checks only with validated references. -/
theorem referencesValidated_of_ok
    {result : List SilverOrder × List SilverPayment × List PaymentReject}
    (returned : validateSources batchId sources = .ok result) :
    ReferencesValidated batchId sources := by
  simp only [validateSources, bind_eq_ok_iff, reject_eq_ok_iff, ne_eq, not_not] at returned
  obtain ⟨_, _, _, _, _, _, _, _, _, _, _, customers, _, products, _⟩ := returned
  exact referencesValidated_iff.mpr ⟨customers, products⟩

/-! ## Agreement of the two lookups -/

/-- The first bronze rows of the ids to which an accepted order refers are accepted. -/
def FirstsAccepted
    (bronzeCustomers : List (BronzeRow CustomerColumns))
    (bronzeProducts : List (BronzeRow ProductColumns))
    (bronzeOrders : List (BronzeRow OrderColumns))
    (batchId : String) : Prop :=
  forall order : BronzeRow OrderColumns,
    leading Orders.businessKey Orders.orderOrder order.columns.orderId
        (ofBatch batchId bronzeOrders) = some order ->
      Passing (Orders.referenceRules bronzeCustomers bronzeProducts batchId) order ->
      FirstAccepted Customers.businessKey Customers.rules (ofBatch batchId bronzeCustomers)
          order.columns.customerId ∧
        FirstAccepted Products.businessKey Products.rules (ofBatch batchId bronzeProducts)
          order.columns.productId

theorem mem_of_found_isSome
    {known : List (Option String)}
    {id : Option String}
    (isFound : (Orders.found known id).isNone = false) :
    id ∈ known := by
  unfold Orders.found at isFound
  split at isFound
  · rename_i both
    exact both.2
  · exact absurd isFound (by decide)

/-- An order without an error has ids that the batch has in bronze. -/
theorem references_of_passing
    {order : BronzeRow OrderColumns}
    (passes : Passing (Orders.referenceRules bronzeCustomers bronzeProducts batchId) order) :
    (order.columns.customerId.isSome = true ∧ order.columns.productId.isSome = true) ∧
      order.columns.customerId ∈ Orders.batchIds Customers.businessKey batchId bronzeCustomers ∧
      order.columns.productId ∈ Orders.batchIds Products.businessKey batchId bronzeProducts := by
  have unbroken := triggered_eq_nil_iff.mp passes
  simp only [Orders.referenceRules, Orders.rules, List.forall_mem_cons] at unbroken
  obtain ⟨_, customerId, productId, _, _, _, _, _, _, _, _, _, customers, products, _⟩ := unbroken
  exact ⟨⟨isSome_of_not_blank customerId, isSome_of_not_blank productId⟩,
    mem_of_found_isSome customers, mem_of_found_isSome products⟩

/-- The orders in silver are the first rows of their ids that break no rule. -/
theorem ProducedSources.mem_orders_iff
    (produced : ProducedSources sha2 batchId bronzeCustomers bronzeProducts sources)
    {order : SilverOrder} :
    order ∈ silverOfBatch batchId sources.orders.silver ↔
      Exists fun bronze : BronzeRow OrderColumns =>
        (leading Orders.businessKey Orders.orderOrder bronze.columns.orderId
            (ofBatch batchId sources.bronzeOrders) = some bronze ∧
          Passing (Orders.referenceRules bronzeCustomers bronzeProducts batchId) bronze) ∧
          (Orders.job bronzeCustomers bronzeProducts batchId).silverRow bronze = order :=
  mem_silver_iff (Orders.lawful bronzeCustomers bronzeProducts batchId) produced.orders
    (Orders.classify_eq bronzeCustomers bronzeProducts batchId)

/-- An accepted order refers to silver exactly when the first bronze rows of its ids are
accepted. -/
theorem ProducedSources.validated_iff
    (produced : ProducedSources sha2 batchId bronzeCustomers bronzeProducts sources)
    {order : BronzeRow OrderColumns}
    (passes : Passing (Orders.referenceRules bronzeCustomers bronzeProducts batchId) order) :
    Validated batchId sources order.columns ↔
      FirstAccepted Customers.businessKey Customers.rules (ofBatch batchId bronzeCustomers)
          order.columns.customerId ∧
        FirstAccepted Products.businessKey Products.rules (ofBatch batchId bronzeProducts)
          order.columns.productId := by
  obtain ⟨⟨hasCustomer, hasProduct⟩, _⟩ := references_of_passing passes
  have customers := exists_silver_iff Customers.lawful produced.customers (fun _ => rfl)
    (fun silver => silver.customerId) (fun _ => rfl) hasCustomer
  have products := exists_silver_iff Products.lawful produced.products (fun _ => rfl)
    ProductColumns.productId (fun _ => rfl) hasProduct
  rw [← customers, ← products]
  exact ⟨fun validated => ⟨validated.customer, validated.product⟩, fun both => ⟨both.1, both.2⟩⟩

/-- Orders in silver refer to the bronze rows of their batch. They refer to silver exactly
when the first bronze rows of their ids are accepted; then the check of references never
fails, and else the mart has no source to sum. -/
theorem references_validated_iff
    (produced : ProducedSources sha2 batchId bronzeCustomers bronzeProducts sources) :
    (forall order, order ∈ silverOfBatch batchId sources.orders.silver ->
      order.columns.customerId ∈ Orders.batchIds Customers.businessKey batchId bronzeCustomers ∧
        order.columns.productId ∈ Orders.batchIds Products.businessKey batchId bronzeProducts) ∧
    (ReferencesValidated batchId sources ↔
      FirstsAccepted bronzeCustomers bronzeProducts sources.bronzeOrders batchId) ∧
    (ReferencesValidated batchId sources ->
      forall message, message ∈ unvalidatedErrors ->
        validateSources batchId sources ≠ .error message) ∧
    (¬ReferencesValidated batchId sources ->
      forall result, validateSources batchId sources ≠ .ok result) := by
  refine ⟨?_, ⟨?_, ?_⟩, fun validated _ => validateSources_ne_error validated,
    fun invalid _ returned => invalid (referencesValidated_of_ok returned)⟩
  · intro order member
    obtain ⟨bronze, ⟨_, passes⟩, rfl⟩ := produced.mem_orders_iff.mp member
    exact (references_of_passing passes).2
  · intro validated order isFirst passes
    exact (produced.validated_iff passes).mp
      (validated _ (produced.mem_orders_iff.mpr ⟨order, ⟨isFirst, passes⟩, rfl⟩))
  · intro accepted order member
    obtain ⟨bronze, ⟨isFirst, passes⟩, rfl⟩ := produced.mem_orders_iff.mp member
    exact (produced.validated_iff passes).mpr (accepted bronze isFirst passes)

/-! A batch whose customer has no name. -/

def namelessCustomers : List (BronzeRow CustomerColumns) :=
  sampleCustomers.map fun row => { row with columns := { row.columns with fullName := none } }

/-- What the four jobs make of bronze tables without a row in silver. -/
def firstSources
    (bronzeCustomers : List (BronzeRow CustomerColumns))
    (bronzeProducts : List (BronzeRow ProductColumns))
    (bronzeOrders : List (BronzeRow OrderColumns))
    (bronzePayments : List (BronzeRow PaymentColumns)) : Sources where
  bronzeOrders
  bronzePayments
  orders := (Orders.job bronzeCustomers bronzeProducts "b1").merged sampleSha2
    (ofBatch "b1" bronzeOrders) noTables
  payments := Payments.job.merged sampleSha2 (ofBatch "b1" bronzePayments) noTables
  customers := Customers.job.merged sampleSha2 (ofBatch "b1" bronzeCustomers) noTables
  products := Products.job.merged sampleSha2 (ofBatch "b1" bronzeProducts) noTables

/-- The tables of one row each are produced. -/
theorem firstSources_produced
    (customer : CustomerColumns)
    (product : ProductColumns)
    (order : OrderColumns)
    (payment : PaymentColumns) :
    ProducedSources sampleSha2 "b1" [sampleRow customer] [sampleRow product]
      (firstSources [sampleRow customer] [sampleRow product] [sampleRow order]
        [sampleRow payment]) where
  customers := produced_fresh Customers.lawful sampleSha2_injective (sample_fresh customer)
  products := produced_fresh Products.lawful sampleSha2_injective (sample_fresh product)
  orders := produced_fresh (Orders.lawful _ _ _) sampleSha2_injective (sample_fresh order)
  payments := produced_fresh Payments.lawful sampleSha2_injective (sample_fresh payment)

/-- The order in silver refers to a customer that is in the rejects, and the mart stops. -/
theorem nameless_customer_blocks :
    ProducedSources sampleSha2 "b1" namelessCustomers sampleProducts
        (firstSources namelessCustomers sampleProducts sampleOrders samplePayments) ∧
      ¬ReferencesValidated "b1"
        (firstSources namelessCustomers sampleProducts sampleOrders samplePayments) ∧
      validateSources "b1"
          (firstSources namelessCustomers sampleProducts sampleOrders samplePayments) =
        .error "commerce orders reference unvalidated customer_id" := by
  refine ⟨firstSources_produced _ _ _ _, ?_, by rfl⟩
  intro validated
  have failed : validateSources "b1"
      (firstSources namelessCustomers sampleProducts sampleOrders samplePayments) =
      .error "commerce orders reference unvalidated customer_id" := by rfl
  exact validateSources_ne_error validated List.mem_cons_self failed

theorem sample_firsts_accepted :
    FirstsAccepted sampleCustomers sampleProducts sampleOrders "b1" := by
  intro order isFirst _
  have member := (leading_mem isFirst).1
  rw [List.mem_singleton.mp (show order ∈ [_] from member)]
  exact ⟨⟨_, rfl, by decide⟩, ⟨_, rfl, by decide⟩⟩

theorem sample_references_validated :
    ReferencesValidated "b1"
      (firstSources sampleCustomers sampleProducts sampleOrders samplePayments) :=
  (references_validated_iff (firstSources_produced _ _ _ _)).2.1.mpr sample_firsts_accepted

end GoldCommerceDaily
end Spark
end LakehouseOps
