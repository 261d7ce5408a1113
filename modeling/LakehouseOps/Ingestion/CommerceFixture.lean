import Mathlib
import LakehouseOps.Library.Fallible
import LakehouseOps.Spark.SilverCommerce

/-!
# Commerce fixture

The generator of a commerce batch: customers, products, orders and payments with a chosen
number of null emails, repeated orders, late orders and payments without an amount. A record
is given with the values that bronze reads from its line, and the random draws are any that
are in range.
-/

namespace LakehouseOps
namespace Ingestion
namespace CommerceFixture

open Library Library.Fallible
open Spark.SilverCommerce (Timestamp)
open Spark.SilverCommerce.Customers (CustomerColumns)
open Spark.SilverCommerce.Products (ProductColumns)
open Spark.SilverCommerce.Orders (OrderColumns)
open Spark.SilverCommerce.Payments (PaymentColumns)

/-! ## Configuration -/

/-- What `datetime.fromisoformat(batch_at)` gives: nothing, a time without a zone, or one with
a zone and its instant in UTC, if that has a year from 1 to 9999. -/
inductive BatchAt
  | malformed
  | naive
  | aware (instant : Option Timestamp)

/-- `CommerceFixtureConfig`; the seed is in the draws. -/
structure CommerceFixtureConfig where
  customers : Int
  products : Int
  orders : Int
  nullCustomerEmails : Int
  duplicateOrders : Int
  lateOrders : Int
  invalidPayments : Int
  batchAt : BatchAt

/-- The bounds of the numbers of quality cases. -/
def CommerceFixtureConfig.limits (config : CommerceFixtureConfig) : List (String × Int × Int) :=
  [("null_customer_emails", config.nullCustomerEmails, config.customers),
    ("duplicate_orders", config.duplicateOrders, config.orders),
    ("late_orders", config.lateOrders, config.orders),
    ("invalid_payments", config.invalidPayments, config.orders)]

/-- `__post_init__` -/
def CommerceFixtureConfig.postInit (config : CommerceFixtureConfig) : Except String PUnit := do
  reject (min (min config.customers config.products) config.orders < 1)
    "customers, products, and orders must be positive"
  config.limits.forM fun limit =>
    reject (¬(0 ≤ limit.2.1 ∧ limit.2.1 ≤ limit.2.2))
      (limit.1 ++ " must be between 0 and " ++ toString limit.2.2)
  reject (config.orders < config.lateOrders + config.duplicateOrders)
    "late_orders and duplicate_orders must fit in distinct canonical orders"
  match config.batchAt with
  | .malformed => .error "batch_at must be an ISO-8601 timestamp"
  | .naive => .error "batch_at must include a timezone"
  | .aware _ => .ok ⟨⟩

/-! ## Records -/

/-- A number in decimal digits, with zeros up to a width. -/
def zeroPadded (width index : Nat) : String :=
  String.ofList (List.replicate (width - (Nat.toDigits 10 index).length) '0' ++
    Nat.toDigits 10 index)

def day : Int := 86400 * 1000000

def second : Int := 1000000

/-- The least time that has a year from 1: the start of 0001-01-01. -/
def minTime : Timestamp := -719162 * day

/-- `moment - delta` -/
def minus (moment : Timestamp) (delta : Int) : Except String Timestamp :=
  if moment - delta < minTime then .error "date value out of range" else .ok (moment - delta)

/-- A customer. The 1st of January 2025 is day 20089. -/
def customer (config : CommerceFixtureConfig) (revision index : Nat) : CustomerColumns where
  customerId := some ("C" ++ zeroPadded 8 index)
  fullName := some ("Customer " ++ zeroPadded 8 index ++
    if revision = 0 then "" else " revision " ++ Nat.repr revision)
  email :=
    if (index : Int) ≤ config.nullCustomerEmails then none
    else some ("customer" ++ zeroPadded 8 index ++ "@example.test")
  registeredAt := some ((20089 + ((index - 1) % 28 : Nat)) * day)

/-- `unit_price_cents` of a product. -/
def unitPrice (index : Nat) : Nat :=
  500 + index * 137 % 49500

def product (index : Nat) : ProductColumns where
  productId := some ("P" ++ zeroPadded 6 index)
  name := some ("Product " ++ zeroPadded 6 index)
  category := some ("category_" ++ zeroPadded 2 ((index - 1) % 12 + 1))
  unitPriceCents := some (Int64.ofInt (unitPrice index))

/-- The random draws of one order. -/
structure Draw (config : CommerceFixtureConfig) where
  /-- `randrange(config.products)` -/
  productIndex : Nat
  productInRange : (productIndex : Int) < config.products
  /-- `randint(1, 5)` -/
  quantity : Nat
  quantityInRange : 1 ≤ quantity ∧ quantity ≤ 5
  /-- `randrange(1, config.customers + 1)` -/
  customerIndex : Nat
  customerInRange : 1 ≤ customerIndex ∧ (customerIndex : Int) < config.customers + 1

/-- `age_days` of an order. -/
def ageDays (config : CommerceFixtureConfig) (index : Nat) : Nat :=
  if (index : Int) ≤ config.lateOrders then 45 + index % 15 else index % 30

/-- What is taken from the time of the batch for an order. -/
def age (config : CommerceFixtureConfig) (index : Nat) : Int :=
  ageDays config index * day + (index % 86400 : Nat) * second

/-- An order of a time. -/
def orderAt
    {config : CommerceFixtureConfig}
    (batchAt : Timestamp)
    (draw : Draw config)
    (index : Nat)
    (eventAt : Timestamp) : OrderColumns where
  orderId := some ("O" ++ zeroPadded 10 index)
  customerId := some ("C" ++ zeroPadded 8 draw.customerIndex)
  productId := (product (draw.productIndex + 1)).productId
  quantity := some (Int32.ofInt draw.quantity)
  unitPriceCents := some (Int64.ofInt (unitPrice (draw.productIndex + 1)))
  totalCents := some (Int64.ofInt (draw.quantity * unitPrice (draw.productIndex + 1)))
  eventAt := some eventAt
  ingestedAt := some batchAt

def payment (config : CommerceFixtureConfig) (index : Nat) (order : OrderColumns) :
    PaymentColumns where
  paymentId := some ("PAY" ++ zeroPadded 10 index)
  orderId := order.orderId
  amountCents := if (index : Int) ≤ config.invalidPayments then none else order.totalCents
  status := some "captured"
  paidAt := order.ingestedAt

/-! ## Tables -/

/-- The indices from one to a count. -/
def indices (count : Int) : List Nat :=
  List.range' 1 count.toNat

/-- `_customers` -/
def customers (config : CommerceFixtureConfig) (revision : Nat) : List CustomerColumns :=
  (indices config.customers).map (customer config revision)

/-- `_products` -/
def products (config : CommerceFixtureConfig) : List ProductColumns :=
  (indices config.products).map product

/-- `_orders` -/
def orders
    (config : CommerceFixtureConfig)
    (batchAt : Timestamp)
    (draws : Nat -> Draw config) : Except String (List OrderColumns) :=
  (indices config.orders).mapM fun index => do
    let eventAt <- minus batchAt (age config index)
    return orderAt batchAt (draws index) index eventAt

/-- `_payments` -/
def payments (config : CommerceFixtureConfig) (orders : List OrderColumns) :
    List PaymentColumns :=
  (orders.zipIdx 1).map fun numbered => payment config numbered.2 numbered.1

/-- The tables of a batch. -/
structure Tables where
  customers : List CustomerColumns
  products : List ProductColumns
  orders : List OrderColumns
  payments : List PaymentColumns

/-- `_write_tables`, with the instant of the batch that its orders refer to. -/
def writeTables
    (config : CommerceFixtureConfig)
    (revision : Nat)
    (draws : Nat -> Draw config) : Except String Tables :=
  match config.batchAt with
  | .aware (some batchAt) => do
      let orders <- orders config batchAt draws
      return {
        customers := customers config revision
        products := products config
        orders := orders ++
          (orders.drop config.lateOrders.toNat).take config.duplicateOrders.toNat
        payments := payments config orders }
  | _ => .error "date value out of range"

end CommerceFixture
end Ingestion
end LakehouseOps
