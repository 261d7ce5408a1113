import LakehouseOps.Library.Fallible
import LakehouseOps.Spark.GoldCommerceCurrent
import LakehouseOps.Spark.SilverCommerce

/-!
# The daily commerce mart

The job checks the silver tables of a batch against each other and against bronze, joins the
payments of each order to it, and sums the orders of each day.
-/

namespace LakehouseOps
namespace Spark
namespace GoldCommerceDaily

open Library Library.Table Library.Fallible
open SilverCommerce
open GoldCommerceCurrent (DailyRow)
open SilverCommerce.Customers (CustomerColumns CustomerSilver)
open SilverCommerce.Products (ProductColumns)
open SilverCommerce.Orders (OrderColumns OrderSilver)
open SilverCommerce.Payments (PaymentColumns)

/-- The tables that the job reads. -/
structure Sources where
  bronzeOrders : List (BronzeRow OrderColumns)
  bronzePayments : List (BronzeRow PaymentColumns)
  orders : SilverTables OrderSilver OrderSilver
  payments : SilverTables PaymentColumns PaymentColumns
  customers : SilverTables CustomerSilver CustomerColumns
  products : SilverTables ProductColumns ProductColumns

abbrev SilverOrder := SilverRow OrderSilver

abbrev SilverPayment := SilverRow PaymentColumns

abbrev PaymentReject := RejectRow PaymentColumns

/-! ## Validation -/

/-- The orders whose column matches no known value. -/
def unvalidated
    (column : OrderColumns -> Option String)
    (known : List (Option String))
    (orders : List SilverOrder) : List SilverOrder :=
  leftAnti (fun order value => sqlEq (column order.columns.toOrderColumns) value) orders known

/-- `validate_sources` -/
def validateSources (batchId : String) (sources : Sources) :
    Except String (List SilverOrder × List SilverPayment × List PaymentReject) := do
  let orders := silverOfBatch batchId sources.orders.silver
  let orderRejects := rejectsOfBatch batchId sources.orders.rejects
  let payments := silverOfBatch batchId sources.payments.silver
  let paymentRejects := rejectsOfBatch batchId sources.payments.rejects
  let bronzeOrders := ofBatch batchId sources.bronzeOrders
  let bronzePayments := ofBatch batchId sources.bronzePayments
  reject (orders.length = 0 ∨ bronzePayments.length = 0)
    ("selected commerce batch is empty or incomplete: " ++ batchId)
  reject (orders.length + orderRejects.length ≠ bronzeOrders.length)
    "commerce order silver is not reconciled to bronze"
  reject (payments.length + paymentRejects.length ≠ bronzePayments.length)
    "commerce payment silver is not reconciled to bronze"
  reject (groupsWhere (fun order : SilverOrder => order.columns.orderId)
      (fun group => 1 < group.length) orders ≠ [])
    "commerce order silver contains duplicate order IDs"
  let allPayments := payments.map (fun payment => payment.columns.orderId) ++
    paymentRejects.map fun payment => payment.columns.orderId
  reject (leftAnti (fun id (order : SilverOrder) => sqlEq id order.columns.orderId)
      allPayments orders ≠ [])
    "commerce payments contain orphaned or missing order IDs"
  let knownCustomers := (silverOfBatch batchId sources.customers.silver).map fun customer =>
    customer.columns.customerId
  reject (unvalidated OrderColumns.customerId knownCustomers orders ≠ [])
    "commerce orders reference unvalidated customer_id"
  let knownProducts := (silverOfBatch batchId sources.products.silver).map fun product =>
    product.columns.productId
  reject (unvalidated OrderColumns.productId knownProducts orders ≠ [])
    "commerce orders reference unvalidated product_id"
  return (orders, payments, paymentRejects)

/-! ## Summary -/

/-- `sum` of a bigint column: null without a value that is not null, and wrapping around
where the sum does not fit. -/
def sqlSum (values : List (Option Int64)) : Option Int64 :=
  if values.filterMap id = [] then none else some ((values.filterMap id).foldr (· + ·) 0)

/-- The payments of an order that are valid. -/
structure ValidPayments where
  orderId : Option String
  validPaymentCount : Nat
  capturedPaymentCount : Nat
  noncapturedPaymentCount : Nat
  capturedRevenueCents : Option Int64

/-- `valid_by_order` -/
def validByOrder (payments : List SilverPayment) : List ValidPayments :=
  (keys (fun payment : SilverPayment => payment.columns.orderId) payments).map fun orderId =>
    let group := rowsOf (fun payment : SilverPayment => payment.columns.orderId) orderId payments
    { orderId
      validPaymentCount := group.countP fun payment => payment.columns.paymentId.isSome
      capturedPaymentCount := group.countP fun payment =>
        sqlEq payment.columns.status (some "captured")
      noncapturedPaymentCount := group.countP fun payment =>
        sqlNe payment.columns.status (some "captured")
      capturedRevenueCents := sqlSum (group.map fun payment =>
        if sqlEq payment.columns.status (some "captured") then payment.columns.amountCents
        else some 0) }

/-- The payments of an order that are rejected. -/
structure RejectedPayments where
  orderId : Option String
  rejectedPaymentCount : Nat

/-- `rejected_by_order` -/
def rejectedByOrder (paymentRejects : List PaymentReject) : List RejectedPayments :=
  (keys (fun payment : PaymentReject => payment.columns.orderId) paymentRejects).map
    fun orderId =>
      { orderId
        rejectedPaymentCount := (rowsOf (fun payment : PaymentReject => payment.columns.orderId)
          orderId paymentRejects).length }

/-- An order with its payments. -/
structure EnrichedOrder where
  order : SilverOrder
  capturedPaymentCount : Nat
  noncapturedPaymentCount : Nat
  capturedRevenueCents : Int64
  rejectedPaymentCount : Nat
  missingPaymentCount : Nat
  orderDay : Option Int

/-- `to_date`, in UTC. -/
def toDate (time : Timestamp) : Int :=
  time / (86400 * 1000000)

/-- An order with the payments that its two joins found, null filled with zero. -/
def enrich
    (order : SilverOrder)
    (valid : Option ValidPayments)
    (rejected : Option RejectedPayments) : EnrichedOrder :=
  let rejectedPaymentCount := rejected.elim 0 RejectedPayments.rejectedPaymentCount
  { order
    capturedPaymentCount := valid.elim 0 ValidPayments.capturedPaymentCount
    noncapturedPaymentCount := valid.elim 0 ValidPayments.noncapturedPaymentCount
    capturedRevenueCents := (valid.bind ValidPayments.capturedRevenueCents).getD 0
    rejectedPaymentCount
    missingPaymentCount :=
      if valid.elim 0 ValidPayments.validPaymentCount + rejectedPaymentCount = 0 then 1 else 0
    orderDay := order.columns.eventAt.map toDate }

def enriched
    (orders : List SilverOrder)
    (payments : List SilverPayment)
    (paymentRejects : List PaymentReject) : List EnrichedOrder :=
  let withValid := leftJoin
    (fun (order : SilverOrder) (valid : ValidPayments) =>
      sqlEq order.columns.orderId valid.orderId)
    orders (validByOrder payments)
  let withRejected := leftJoin
    (fun (joined : SilverOrder × Option ValidPayments) (rejected : RejectedPayments) =>
      sqlEq joined.1.columns.orderId rejected.orderId)
    withValid (rejectedByOrder paymentRejects)
  withRejected.map fun joined => enrich joined.1.1 joined.1.2 joined.2

/-- The columns of a daily row that are computed. -/
structure DailyMeasures where
  orderCount : Nat
  buyerCount : Nat
  orderedAmountCents : Option Int64
  capturedRevenueCents : Option Int64
  capturedPaymentCount : Nat
  noncapturedPaymentCount : Nat
  rejectedPaymentCount : Nat
  missingPaymentCount : Nat
  lateOrderCount : Option Int64
  deriving DecidableEq

/-- The aggregates of the orders of a day. -/
def measures (group : List EnrichedOrder) : DailyMeasures where
  orderCount := group.countP fun entry => entry.order.columns.orderId.isSome
  buyerCount := ((group.filterMap fun entry => entry.order.columns.customerId).dedup).length
  orderedAmountCents := sqlSum (group.map fun entry => entry.order.columns.totalCents)
  capturedRevenueCents := sqlSum (group.map fun entry => some entry.capturedRevenueCents)
  capturedPaymentCount := (group.map EnrichedOrder.capturedPaymentCount).sum
  noncapturedPaymentCount := (group.map EnrichedOrder.noncapturedPaymentCount).sum
  rejectedPaymentCount := (group.map EnrichedOrder.rejectedPaymentCount).sum
  missingPaymentCount := (group.map EnrichedOrder.missingPaymentCount).sum
  lateOrderCount := sqlSum (group.map fun entry =>
    entry.order.columns.isLate.map fun isLate => if isLate then 1 else 0)

/-- The batch and the day by which the orders are grouped. -/
def dayKey (entry : EnrichedOrder) : String × Option Int :=
  (entry.order.sourceBatchId, entry.orderDay)

/-- `summarize` -/
def summarize
    (orders : List SilverOrder)
    (payments : List SilverPayment)
    (paymentRejects : List PaymentReject) : List (DailyRow DailyMeasures) :=
  let joined := enriched orders payments paymentRejects
  (keys dayKey joined).map fun day =>
    { sourceBatchId := some day.1
      orderDay := day.2
      measures := measures (rowsOf dayKey day joined) }

end GoldCommerceDaily
end Spark
end LakehouseOps
