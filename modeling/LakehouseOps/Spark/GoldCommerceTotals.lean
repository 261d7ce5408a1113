import LakehouseOps.Library.Totals
import LakehouseOps.Spark.CommerceReferences

/-!
# Totals of the daily mart

The payments of an order are summed before they are joined to it, so the joins keep every
order once and give every payment to one order. The days then share the orders, and their
counts and amounts add up to those of silver.
-/

namespace LakehouseOps
namespace Spark
namespace GoldCommerceDaily

open Library Library.Table Library.Fallible
open SilverCommerce
open GoldCommerceCurrent (DailyRow)
open SilverCommerce.Customers (CustomerColumns)
open SilverCommerce.Products (ProductColumns)
open SilverCommerce.Orders (OrderColumns)

/-! ## Nullable sums -/

/-- A nullable amount, null as zero. -/
def cents (amount : Option Int64) : Int :=
  amount.elim 0 Int64.toInt

theorem filterMap_cents (values : List (Option Int64)) :
    ((values.filterMap id).map Int64.toInt).sum = (values.map cents).sum := by
  induction values with
  | nil => rfl
  | cons value values inductionHypothesis =>
      cases value with
      | none =>
          rw [List.filterMap_cons_none rfl, inductionHypothesis, List.map_cons, List.sum_cons]
          exact (Int.zero_add _).symm
      | some value =>
          rw [List.filterMap_cons_some (show id (some value) = some value from rfl), List.map_cons,
            List.sum_cons, inductionHypothesis, List.map_cons, List.sum_cons]
          rfl

/-- A sum is the sum of the amounts, wrapped. -/
theorem cents_sqlSum (values : List (Option Int64)) :
    cents (sqlSum values) = ((values.map cents).sum).bmod (2 ^ 64) := by
  rw [← filterMap_cents, ← toInt_sum]
  unfold sqlSum
  split
  · rename_i noValue
    rw [noValue]
    rfl
  · rfl

theorem sqlSum_isSome
    {values : List (Option Int64)}
    {value : Option Int64}
    (member : value ∈ values)
    (present : value.isSome = true) :
    (sqlSum values).isSome = true := by
  unfold sqlSum
  rw [if_neg]
  · rfl
  · obtain ⟨amount, rfl⟩ := Option.isSome_iff_exists.mp present
    exact List.ne_nil_of_mem (List.mem_filterMap.mpr ⟨some amount, member, rfl⟩)

/-! ## The joins -/

/-- The valid payments of an order. -/
def paymentsOf (payments : List SilverPayment) (order : SilverOrder) : List SilverPayment :=
  rowsOf (fun payment : SilverPayment => payment.columns.orderId) order.columns.orderId payments

/-- The rejected payments of an order. -/
def rejectsOf (paymentRejects : List PaymentReject) (order : SilverOrder) : List PaymentReject :=
  rowsOf (fun payment : PaymentReject => payment.columns.orderId) order.columns.orderId
    paymentRejects

def isCaptured (payment : SilverPayment) : Bool :=
  sqlEq payment.columns.status (some "captured")

def isNoncaptured (payment : SilverPayment) : Bool :=
  sqlNe payment.columns.status (some "captured")

/-- What a payment adds to the captured revenue. -/
def capturedCents (payment : SilverPayment) : Option Int64 :=
  if isCaptured payment then payment.columns.amountCents else some 0

/-- An order with the counts and amounts of its own payments. -/
def withPayments
    (payments : List SilverPayment)
    (paymentRejects : List PaymentReject)
    (order : SilverOrder) : EnrichedOrder where
  order
  capturedPaymentCount := (paymentsOf payments order).countP isCaptured
  noncapturedPaymentCount := (paymentsOf payments order).countP isNoncaptured
  capturedRevenueCents := (sqlSum ((paymentsOf payments order).map capturedCents)).getD 0
  rejectedPaymentCount := (rejectsOf paymentRejects order).length
  missingPaymentCount :=
    if (paymentsOf payments order).countP (fun payment => payment.columns.paymentId.isSome) +
      (rejectsOf paymentRejects order).length = 0 then 1 else 0
  orderDay := order.columns.eventAt.map toDate

/-- The groups of a table by a nullable id have at most one group of an id. -/
theorem filter_groups
    {Row Group : Type}
    {key : Row -> Option String}
    {group : Option String -> Group}
    {groupId : Group -> Option String}
    (tagged : forall id, groupId (group id) = id)
    (rows : List Row)
    (id : Option String) :
    ((keys key rows).map group).filter (fun entry => sqlEq id (groupId entry)) =
      (if id.isSome ∧ id ∈ rows.map key then some (group id) else none).toList := by
  rw [List.filter_map]
  have ids : (keys key rows).filter ((fun entry => sqlEq id (groupId entry)) ∘ group) =
      (keys key rows).filter fun other => sqlEq id other :=
    List.filter_congr fun other _ => by rw [Function.comp_apply, tagged]
  rw [ids, keys, Orders.filter_known]
  split <;> rfl

/-- Null or no group: without an id in the table there is no row of the id. -/
theorem rowsOf_of_absent
    {Row : Type}
    {key : Row -> Option String}
    {rows : List Row}
    {id : Option String}
    (absent : ¬(id.isSome = true ∧ id ∈ rows.map key))
    (present : id.isSome = true) :
    rowsOf key id rows = [] :=
  rowsOf_eq_nil_iff.mpr fun row member same =>
    absent ⟨present, List.mem_map.mpr ⟨row, member, same⟩⟩

/-- The joins keep each order once and find its own payments. -/
theorem enriched_eq
    {orders : List SilverOrder}
    {payments : List SilverPayment}
    {paymentRejects : List PaymentReject}
    (identified : forall order, order ∈ orders -> order.columns.orderId.isSome = true) :
    enriched orders payments paymentRejects = orders.map (withPayments payments paymentRejects) := by
  unfold enriched validByOrder rejectedByOrder
  simp only
  rw [leftJoin_eq_map fun (order : SilverOrder) _ =>
      filter_groups (fun _ => rfl) payments order.columns.orderId,
    leftJoin_eq_map fun (joined : SilverOrder × Option ValidPayments) _ =>
      filter_groups (fun _ => rfl) paymentRejects joined.1.columns.orderId,
    List.map_map, List.map_map]
  refine List.map_congr_left fun order member => ?_
  have present := identified order member
  simp only [Function.comp_apply]
  unfold enrich withPayments paymentsOf rejectsOf
  split
  · split
    · rfl
    · rename_i absent
      rw [rowsOf_of_absent absent present]
      rfl
  · rename_i absent
    rw [rowsOf_of_absent absent present]
    split
    · rfl
    · rename_i absent
      rw [rowsOf_of_absent absent present]
      rfl

/-! ## Sources that pass -/

/-- What is known of the sources of the mart. -/
structure Reconciled
    (batchId : String)
    (bronzePayments : Nat)
    (orders : List SilverOrder)
    (payments : List SilverPayment)
    (paymentRejects : List PaymentReject) : Prop where
  ofBatch : forall order, order ∈ orders -> order.sourceBatchId = batchId
  identified : forall order, order ∈ orders -> order.columns.orderId.isSome = true
  distinct : (orders.map fun order => order.columns.orderId).Nodup
  priced : forall order, order ∈ orders ->
    order.columns.totalCents.isSome = true ∧ 0 ≤ cents order.columns.totalCents
  paid : forall payment, payment ∈ payments ->
    payment.columns.paymentId.isSome = true ∧ payment.columns.status.isSome = true ∧
      payment.columns.amountCents.isSome = true ∧ 0 ≤ cents payment.columns.amountCents
  attributed : forall payment, payment ∈ payments ->
    payment.columns.orderId ∈ orders.map fun order => order.columns.orderId
  rejectsAttributed : forall payment, payment ∈ paymentRejects ->
    payment.columns.orderId ∈ orders.map fun order => order.columns.orderId
  counted : payments.length + paymentRejects.length = bronzePayments

variable {sha2 : String -> Digest} {batchId : String}
  {bronzeCustomers : List (BronzeRow CustomerColumns)}
  {bronzeProducts : List (BronzeRow ProductColumns)} {sources : Sources}
  {orders : List SilverOrder} {payments : List SilverPayment}
  {paymentRejects : List PaymentReject}

theorem isSome_of_isNone {Value : Type} {value : Option Value} (present : value.isNone = false) :
    value.isSome = true := by
  rw [← Option.not_isNone, present]
  rfl

theorem cents_nonneg {amount : Option Int64} (positive : nonPositive amount = false) :
    0 ≤ cents amount := by
  cases amount with
  | none => exact le_refl _
  | some amount =>
      have above : ¬amount ≤ 0 := of_decide_eq_false positive
      rw [Int64.le_iff_toInt_le, not_le] at above
      exact above.le

theorem ProducedSources.order_columns
    (produced : ProducedSources sha2 batchId bronzeCustomers bronzeProducts sources)
    {order : SilverOrder}
    (member : order ∈ silverOfBatch batchId sources.orders.silver) :
    order.columns.orderId.isSome = true ∧ order.columns.totalCents.isSome = true ∧
      0 ≤ cents order.columns.totalCents := by
  obtain ⟨bronze, ⟨_, passes⟩, rfl⟩ := produced.mem_orders_iff.mp member
  have unbroken := triggered_eq_nil_iff.mp passes
  simp only [Orders.referenceRules, Orders.rules, List.forall_mem_cons] at unbroken
  obtain ⟨orderId, _, _, _, _, _, _, totalCents, positive, _⟩ := unbroken
  exact ⟨isSome_of_not_blank orderId, isSome_of_isNone totalCents, cents_nonneg positive⟩

theorem ProducedSources.payment_columns
    (produced : ProducedSources sha2 batchId bronzeCustomers bronzeProducts sources)
    {payment : SilverPayment}
    (member : payment ∈ silverOfBatch batchId sources.payments.silver) :
    payment.columns.paymentId.isSome = true ∧ payment.columns.status.isSome = true ∧
      payment.columns.amountCents.isSome = true ∧ 0 ≤ cents payment.columns.amountCents := by
  rw [(produced.payments.rows Payments.lawful).1] at member
  obtain ⟨entry, isAccepted, rfl⟩ := List.mem_map.mp member
  have unbroken := triggered_eq_nil_iff.mp (Payments.accepted_of_mem isAccepted).1
  simp only [Payments.rules, List.forall_mem_cons] at unbroken
  obtain ⟨paymentId, _, amountCents, positive, status, _⟩ := unbroken
  exact ⟨isSome_of_not_blank paymentId, isSome_of_not_blank status, isSome_of_isNone amountCents,
    cents_nonneg positive⟩

/-- The sources that pass the checks are the silver tables of the batch, reconciled. -/
theorem ProducedSources.reconciled
    (produced : ProducedSources sha2 batchId bronzeCustomers bronzeProducts sources)
    (returned : validateSources batchId sources = .ok (orders, payments, paymentRejects)) :
    (orders = silverOfBatch batchId sources.orders.silver ∧
      payments = silverOfBatch batchId sources.payments.silver ∧
      paymentRejects = rejectsOfBatch batchId sources.payments.rejects) ∧
    Reconciled batchId (ofBatch batchId sources.bronzePayments).length orders payments
      paymentRejects := by
  simp only [validateSources, bind_eq_ok_iff, reject_eq_ok_iff, ne_eq, not_not] at returned
  obtain ⟨_, _, _, _, _, counted, _, repeated, _, attributed, _, _, _, _, same⟩ := returned
  cases same
  have matched : forall id, id ∈ (silverOfBatch batchId sources.payments.silver).map
        (fun payment => payment.columns.orderId) ++
      (rejectsOfBatch batchId sources.payments.rejects).map
        (fun payment => payment.columns.orderId) ->
      id ∈ (silverOfBatch batchId sources.orders.silver).map fun order => order.columns.orderId := by
    intro id member
    obtain ⟨order, isOrder, same⟩ := leftAnti_eq_nil_iff.mp attributed id member
    rw [sqlEq, Bool.and_eq_true, decide_eq_true_eq] at same
    exact List.mem_map.mpr ⟨order, isOrder, same.2.symm⟩
  refine ⟨⟨rfl, rfl, rfl⟩, ?_, ?_, ?_, ?_, ?_, ?_, ?_, counted⟩
  · intro order member
    exact of_decide_eq_true (List.mem_filter.mp member).2
  · exact fun order member => (produced.order_columns member).1
  · exact groupsWhere_repeated_eq_nil_iff.mp repeated
  · exact fun order member => (produced.order_columns member).2
  · exact fun payment member => produced.payment_columns member
  · exact fun payment member => matched _ (List.mem_append_left _ (List.mem_map_of_mem member))
  · exact fun payment member => matched _ (List.mem_append_right _ (List.mem_map_of_mem member))

/-! ## Counts -/

section Counts

variable {bronzePayments : Nat}

/-- The payments of all orders are the payments. -/
theorem Reconciled.sum_paymentsOf
    (reconciled : Reconciled batchId bronzePayments orders payments paymentRejects)
    {Total : Type}
    [AddCommMonoid Total]
    (amount : SilverPayment -> Total) :
    (orders.map fun order => ((paymentsOf payments order).map amount).sum).sum =
      (payments.map amount).sum := by
  rw [← sum_rowsOf amount reconciled.distinct reconciled.attributed, List.map_map]
  rfl

theorem Reconciled.sum_rejectsOf
    (reconciled : Reconciled batchId bronzePayments orders payments paymentRejects) :
    (orders.map fun order => (rejectsOf paymentRejects order).length).sum =
      paymentRejects.length := by
  have ones := sum_rowsOf (fun _ : PaymentReject => 1) reconciled.distinct
    reconciled.rejectsAttributed
  rw [List.map_map] at ones
  simpa [rejectsOf, Function.comp_def] using ones

/-- A payment with a status is captured or it is not. -/
theorem countP_captured_add
    (stated : forall payment, payment ∈ payments -> payment.columns.status.isSome = true) :
    payments.countP isCaptured + payments.countP isNoncaptured = payments.length := by
  rw [List.length_eq_countP_add_countP isCaptured]
  congr 1
  refine List.countP_congr fun payment member => ?_
  obtain ⟨status, isStatus⟩ := Option.isSome_iff_exists.mp (stated payment member)
  rw [isNoncaptured, isCaptured, isStatus, sqlNe_some_some, sqlEq_some_some]
  simp

end Counts

/-! ## Days -/

/-- The day of an order. -/
def dayOf (order : SilverOrder) : Option Int :=
  order.columns.eventAt.map toDate

/-- The orders of a day. -/
def ordersOn (orders : List SilverOrder) (day : Option Int) : List SilverOrder :=
  rowsOf dayOf day orders

/-- The sum of the totals of orders. -/
def orderedTotal (orders : List SilverOrder) : Int :=
  (orders.map fun order => cents order.columns.totalCents).sum

/-- The sum of the amounts of captured payments. -/
def capturedTotal (payments : List SilverPayment) : Int :=
  ((payments.filter isCaptured).map fun payment => cents payment.columns.amountCents).sum

/-- The daily rows share the orders by their day, and their counts and amounts are those of
the orders and payments. A sum of a day is a bigint, so the amounts add up to those of silver
exactly when no day has more than a bigint holds. -/
structure Conserves
    (batchId : String)
    (bronzePayments : Nat)
    (orders : List SilverOrder)
    (payments : List SilverPayment)
    (paymentRejects : List PaymentReject)
    (rows : List (DailyRow DailyMeasures)) : Prop where
  batch : forall row, row ∈ rows -> row.sourceBatchId = some batchId
  daysDistinct : (rows.map DailyRow.orderDay).Nodup
  dayOfOrder : forall order, order ∈ orders -> dayOf order ∈ rows.map DailyRow.orderDay
  ordersOfDay : forall row, row ∈ rows ->
    row.measures.orderCount = (ordersOn orders row.orderDay).length
  orderCount : (rows.map fun row => row.measures.orderCount).sum = orders.length
  paymentCount : (rows.map fun row => row.measures.capturedPaymentCount).sum +
      (rows.map fun row => row.measures.noncapturedPaymentCount).sum +
      (rows.map fun row => row.measures.rejectedPaymentCount).sum = bronzePayments
  missingCount : (rows.map fun row => row.measures.missingPaymentCount).sum =
    orders.countP fun order =>
      (paymentsOf payments order).isEmpty && (rejectsOf paymentRejects order).isEmpty
  orderedOfDay : forall row, row ∈ rows -> row.measures.orderedAmountCents.isSome = true ∧
    cents row.measures.orderedAmountCents =
      (orderedTotal (ordersOn orders row.orderDay)).bmod (2 ^ 64)
  capturedOfDay : forall row, row ∈ rows -> row.measures.capturedRevenueCents.isSome = true ∧
    cents row.measures.capturedRevenueCents =
      (capturedTotal ((ordersOn orders row.orderDay).flatMap (paymentsOf payments))).bmod (2 ^ 64)
  orderedWrapped : ((rows.map fun row => cents row.measures.orderedAmountCents).sum).bmod (2 ^ 64) =
    (orderedTotal orders).bmod (2 ^ 64)
  capturedWrapped :
    ((rows.map fun row => cents row.measures.capturedRevenueCents).sum).bmod (2 ^ 64) =
      (capturedTotal payments).bmod (2 ^ 64)
  orderedExact : (rows.map fun row => cents row.measures.orderedAmountCents).sum =
      orderedTotal orders ↔
    forall row, row ∈ rows -> orderedTotal (ordersOn orders row.orderDay) < 2 ^ 63
  capturedExact : (rows.map fun row => cents row.measures.capturedRevenueCents).sum =
      capturedTotal payments ↔
    forall row, row ∈ rows ->
      capturedTotal ((ordersOn orders row.orderDay).flatMap (paymentsOf payments)) < 2 ^ 63

/-- The daily row of a day. -/
def dailyRow
    (orders : List SilverOrder)
    (payments : List SilverPayment)
    (paymentRejects : List PaymentReject)
    (batchId : String)
    (day : Option Int) : DailyRow DailyMeasures where
  sourceBatchId := some batchId
  orderDay := day
  measures := measures ((ordersOn orders day).map (withPayments payments paymentRejects))

section Days

variable {bronzePayments : Nat}

/-- The daily rows are those of the days of the orders. -/
theorem Reconciled.summarize_eq
    (reconciled : Reconciled batchId bronzePayments orders payments paymentRejects) :
    summarize orders payments paymentRejects =
      (keys dayOf orders).map (dailyRow orders payments paymentRejects batchId) := by
  have dayKeys : forall order, order ∈ orders ->
      dayKey (withPayments payments paymentRejects order) = (batchId, dayOf order) := by
    intro order member
    rw [← reconciled.ofBatch order member]
    rfl
  have keysOfDays : keys dayKey (orders.map (withPayments payments paymentRejects)) =
      (keys dayOf orders).map fun day => (batchId, day) := by
    unfold keys
    rw [List.map_map, ← List.dedup_map_of_injective (fun _ _ same => (Prod.mk.inj same).2),
      List.map_map]
    exact congrArg List.dedup (List.map_congr_left dayKeys)
  unfold summarize
  rw [enriched_eq reconciled.identified]
  dsimp only
  rw [keysOfDays, List.map_map]
  refine List.map_congr_left fun day _ => ?_
  have group : rowsOf dayKey (batchId, day) (orders.map (withPayments payments paymentRejects)) =
      (ordersOn orders day).map (withPayments payments paymentRejects) := by
    unfold rowsOf ordersOn rowsOf
    rw [List.filter_map]
    congr 1
    refine List.filter_congr fun order member => ?_
    rw [Function.comp_apply, dayKeys order member]
    simp
  rw [Function.comp_apply, group]
  rfl

theorem mem_ordersOn {order : SilverOrder} {day : Option Int} :
    order ∈ ordersOn orders day ↔ order ∈ orders ∧ dayOf order = day :=
  mem_rowsOf

/-- Every order of a day has an id, so all are counted. -/
theorem Reconciled.orderCount_eq
    (reconciled : Reconciled batchId bronzePayments orders payments paymentRejects)
    (day : Option Int) :
    (dailyRow orders payments paymentRejects batchId day).measures.orderCount =
      (ordersOn orders day).length := by
  change ((ordersOn orders day).map (withPayments payments paymentRejects)).countP _ = _
  rw [List.countP_map]
  exact List.countP_eq_length.mpr fun order member =>
    reconciled.identified order (mem_ordersOn.mp member).1

/-- What the days sum of their orders is the sum of all orders. -/
theorem sum_days
    {Total : Type}
    [AddCommMonoid Total]
    (amount : SilverOrder -> Total)
    (orders : List SilverOrder) :
    ((keys dayOf orders).map fun day => ((ordersOn orders day).map amount).sum).sum =
      (orders.map amount).sum :=
  sum_keys dayOf amount orders

theorem Reconciled.orderCounts
    (reconciled : Reconciled batchId bronzePayments orders payments paymentRejects) :
    ((keys dayOf orders).map fun day =>
      (dailyRow orders payments paymentRejects batchId day).measures.orderCount).sum =
        orders.length := by
  have ones := sum_days (fun _ => 1) orders
  simp only [List.map_const', List.sum_replicate, smul_eq_mul, mul_one] at ones
  simp only [reconciled.orderCount_eq]
  exact ones

theorem Reconciled.paymentCounts
    (reconciled : Reconciled batchId bronzePayments orders payments paymentRejects) :
    ((keys dayOf orders).map fun day =>
        (dailyRow orders payments paymentRejects batchId day).measures.capturedPaymentCount).sum +
      ((keys dayOf orders).map fun day =>
        (dailyRow orders payments paymentRejects batchId day).measures.noncapturedPaymentCount).sum +
      ((keys dayOf orders).map fun day =>
        (dailyRow orders payments paymentRejects batchId day).measures.rejectedPaymentCount).sum =
      bronzePayments := by
  have counted : forall condition : SilverPayment -> Bool,
      ((keys dayOf orders).map fun day => ((ordersOn orders day).map fun order =>
        (paymentsOf payments order).countP condition).sum).sum = payments.countP condition := by
    intro condition
    rw [sum_days]
    simp only [countP_eq_sum condition]
    exact reconciled.sum_paymentsOf _
  have captured := counted isCaptured
  have noncaptured := counted isNoncaptured
  have rejected := (sum_days (fun order => (rejectsOf paymentRejects order).length) orders).trans
    reconciled.sum_rejectsOf
  have both := countP_captured_add fun payment member => (reconciled.paid payment member).2.1
  rw [← reconciled.counted, ← both, ← captured, ← noncaptured, ← rejected]
  simp only [dailyRow, measures, List.map_map, Function.comp_def, withPayments]

/-- A payment has an id, so an order misses its payment when it has no payment at all. -/
theorem Reconciled.missingCount
    (reconciled : Reconciled batchId bronzePayments orders payments paymentRejects)
    (order : SilverOrder) :
    (withPayments payments paymentRejects order).missingPaymentCount =
      if (paymentsOf payments order).isEmpty && (rejectsOf paymentRejects order).isEmpty
      then 1 else 0 := by
  have identified : (paymentsOf payments order).countP
      (fun payment => payment.columns.paymentId.isSome) = (paymentsOf payments order).length :=
    List.countP_eq_length.mpr fun payment member =>
      (reconciled.paid payment (mem_rowsOf.mp member).1).1
  unfold withPayments
  simp only [identified, Nat.add_eq_zero_iff, List.length_eq_zero_iff, Bool.and_eq_true,
    List.isEmpty_iff]

theorem Reconciled.missingCounts
    (reconciled : Reconciled batchId bronzePayments orders payments paymentRejects) :
    ((keys dayOf orders).map fun day =>
      (dailyRow orders payments paymentRejects batchId day).measures.missingPaymentCount).sum =
      orders.countP fun order =>
        (paymentsOf payments order).isEmpty && (rejectsOf paymentRejects order).isEmpty := by
  rw [countP_eq_sum, ← sum_days]
  simp only [dailyRow, measures, List.map_map, Function.comp_def, reconciled.missingCount]

/-! ## Amounts -/

theorem sum_capturedCents (payments : List SilverPayment) :
    (payments.map fun payment => cents (capturedCents payment)).sum = capturedTotal payments := by
  unfold capturedTotal
  induction payments with
  | nil => rfl
  | cons payment payments inductionHypothesis =>
      rw [List.map_cons, List.sum_cons, inductionHypothesis]
      by_cases captured : isCaptured payment = true
      · rw [List.filter_cons_of_pos captured, List.map_cons, List.sum_cons, capturedCents,
          if_pos captured]
      · rw [List.filter_cons_of_neg captured, capturedCents, if_neg captured]
        exact Int.zero_add _

theorem capturedTotal_flatMap (payments : List SilverPayment) (group : List SilverOrder) :
    capturedTotal (group.flatMap (paymentsOf payments)) =
      (group.map fun order => capturedTotal (paymentsOf payments order)).sum := by
  simp only [← sum_capturedCents]
  rw [List.map_flatMap, List.flatMap_def, List.sum_flatten, List.map_map]
  rfl

/-- The ordered amount of a day is the sum of its totals, wrapped. -/
theorem cents_orderedAmount (batchId : String) (day : Option Int) :
    cents (dailyRow orders payments paymentRejects batchId day).measures.orderedAmountCents =
      (orderedTotal (ordersOn orders day)).bmod (2 ^ 64) := by
  change cents (sqlSum _) = _
  rw [cents_sqlSum, List.map_map, List.map_map]
  rfl

theorem toInt_capturedRevenue (order : SilverOrder) :
    (withPayments payments paymentRejects order).capturedRevenueCents.toInt =
      (capturedTotal (paymentsOf payments order)).bmod (2 ^ 64) := by
  have wrapped := cents_sqlSum ((paymentsOf payments order).map capturedCents)
  rw [List.map_map] at wrapped
  rw [← sum_capturedCents]
  refine Eq.trans ?_ wrapped
  change ((sqlSum _).getD 0).toInt = _
  cases sqlSum ((paymentsOf payments order).map capturedCents) <;> rfl

/-- The captured revenue of a day is the sum of the captured amounts, wrapped. -/
theorem cents_capturedRevenue (batchId : String) (day : Option Int) :
    cents (dailyRow orders payments paymentRejects batchId day).measures.capturedRevenueCents =
      (capturedTotal ((ordersOn orders day).flatMap (paymentsOf payments))).bmod (2 ^ 64) := by
  rw [capturedTotal_flatMap, ← bmod_sum_bmod, List.map_map]
  change cents (sqlSum _) = _
  rw [cents_sqlSum, List.map_map, List.map_map]
  congr 2
  refine List.map_congr_left fun order _ => ?_
  exact toInt_capturedRevenue order

/-- On the days of the orders both sums are there. -/
theorem Reconciled.amounts_isSome
    (reconciled : Reconciled batchId bronzePayments orders payments paymentRejects)
    {day : Option Int}
    (isDay : day ∈ keys dayOf orders) :
    (dailyRow orders payments paymentRejects batchId day).measures.orderedAmountCents.isSome =
        true ∧
      (dailyRow orders payments paymentRejects batchId day).measures.capturedRevenueCents.isSome =
        true := by
  obtain ⟨order, member, ofDay⟩ := mem_keys.mp isDay
  have inDay : withPayments payments paymentRejects order ∈
      (ordersOn orders day).map (withPayments payments paymentRejects) :=
    List.mem_map_of_mem (mem_ordersOn.mpr ⟨member, ofDay⟩)
  exact ⟨sqlSum_isSome (List.mem_map_of_mem inDay) (reconciled.priced order member).1,
    sqlSum_isSome (List.mem_map_of_mem inDay) rfl⟩

theorem Reconciled.orderedTotal_nonneg
    (reconciled : Reconciled batchId bronzePayments orders payments paymentRejects)
    (day : Option Int) :
    0 ≤ orderedTotal (ordersOn orders day) := by
  apply List.sum_nonneg
  intro amount member
  obtain ⟨order, isOrder, rfl⟩ := List.mem_map.mp member
  exact (reconciled.priced order (mem_ordersOn.mp isOrder).1).2

theorem Reconciled.capturedTotal_nonneg
    (reconciled : Reconciled batchId bronzePayments orders payments paymentRejects)
    (group : List SilverOrder) :
    0 ≤ capturedTotal (group.flatMap (paymentsOf payments)) := by
  apply List.sum_nonneg
  intro amount member
  obtain ⟨payment, isPayment, rfl⟩ := List.mem_map.mp member
  obtain ⟨order, _, ofOrder⟩ := List.mem_flatMap.mp (List.mem_filter.mp isPayment).1
  exact (reconciled.paid payment (mem_rowsOf.mp ofOrder).1).2.2.2

/-- The amounts of all days are those of all orders. -/
theorem sum_orderedTotal (orders : List SilverOrder) :
    ((keys dayOf orders).map fun day => orderedTotal (ordersOn orders day)).sum =
      orderedTotal orders :=
  sum_days _ orders

theorem Reconciled.sum_capturedTotal
    (reconciled : Reconciled batchId bronzePayments orders payments paymentRejects) :
    ((keys dayOf orders).map fun day =>
      capturedTotal ((ordersOn orders day).flatMap (paymentsOf payments))).sum =
        capturedTotal payments := by
  simp only [capturedTotal_flatMap]
  rw [sum_days, ← sum_capturedCents, ← reconciled.sum_paymentsOf]
  simp only [sum_capturedCents]

/-- The wrapped amounts of the days add up to their sum, wrapped, and to their sum exactly
when each of them fits. -/
theorem wrapped_days
    (orders : List SilverOrder)
    {amountOn : Option Int -> Int}
    (nonnegative : forall day, 0 ≤ amountOn day) :
    (((keys dayOf orders).map fun day => (amountOn day).bmod (2 ^ 64)).sum).bmod (2 ^ 64) =
        (((keys dayOf orders).map amountOn).sum).bmod (2 ^ 64) ∧
      (((keys dayOf orders).map fun day => (amountOn day).bmod (2 ^ 64)).sum =
          ((keys dayOf orders).map amountOn).sum ↔
        forall day, day ∈ keys dayOf orders -> amountOn day < 2 ^ 63) := by
  have allNonnegative : forall total, total ∈ (keys dayOf orders).map amountOn -> 0 ≤ total :=
    List.forall_mem_map.mpr fun day _ => nonnegative day
  have wrapped := bmod_sum_bmod ((keys dayOf orders).map amountOn)
  have exactly := sum_bmod_eq_iff allNonnegative
  rw [List.map_map] at wrapped exactly
  rw [List.forall_mem_map] at exactly
  exact ⟨wrapped, exactly⟩

end Days

/-- Reconciled sources are conserved by the daily rows. -/
theorem Reconciled.conserves
    {bronzePayments : Nat}
    (reconciled : Reconciled batchId bronzePayments orders payments paymentRejects) :
    Conserves batchId bronzePayments orders payments paymentRejects
      (summarize orders payments paymentRejects) := by
  obtain ⟨orderedWrapped, orderedExact⟩ := wrapped_days orders reconciled.orderedTotal_nonneg
  obtain ⟨capturedWrapped, capturedExact⟩ := wrapped_days orders fun day =>
    reconciled.capturedTotal_nonneg (ordersOn orders day)
  rw [sum_orderedTotal] at orderedWrapped orderedExact
  rw [reconciled.sum_capturedTotal] at capturedWrapped capturedExact
  have days : ((keys dayOf orders).map fun day =>
      (dailyRow orders payments paymentRejects batchId day).orderDay) = keys dayOf orders :=
    List.map_id _
  rw [reconciled.summarize_eq]
  constructor <;> simp only [List.map_map, Function.comp_def, List.forall_mem_map,
    cents_orderedAmount, cents_capturedRevenue]
  case batch => exact fun _ _ => rfl
  case daysDistinct =>
    rw [days]
    exact List.nodup_dedup _
  case dayOfOrder =>
    intro order member
    rw [days]
    exact mem_keys.mpr ⟨order, member, rfl⟩
  case ordersOfDay => exact fun day _ => reconciled.orderCount_eq day
  case orderCount => exact reconciled.orderCounts
  case paymentCount => exact reconciled.paymentCounts
  case missingCount => exact reconciled.missingCounts
  case orderedOfDay => exact fun day isDay => ⟨(reconciled.amounts_isSome isDay).1, rfl⟩
  case capturedOfDay => exact fun day isDay => ⟨(reconciled.amounts_isSome isDay).2, rfl⟩
  case orderedWrapped => exact orderedWrapped
  case capturedWrapped => exact capturedWrapped
  case orderedExact => exact orderedExact
  case capturedExact => exact capturedExact

/-- The daily rows of sources that the silver jobs produced and that pass the checks: the
joins keep every order once with its own payments, and the rows conserve silver. -/
theorem daily_conserves_silver
    (produced : ProducedSources sha2 batchId bronzeCustomers bronzeProducts sources)
    (returned : validateSources batchId sources = .ok (orders, payments, paymentRejects)) :
    (orders = silverOfBatch batchId sources.orders.silver ∧
      payments = silverOfBatch batchId sources.payments.silver ∧
      paymentRejects = rejectsOfBatch batchId sources.payments.rejects) ∧
    enriched orders payments paymentRejects = orders.map (withPayments payments paymentRejects) ∧
    Conserves batchId (ofBatch batchId sources.bronzePayments).length orders payments
      paymentRejects (summarize orders payments paymentRejects) := by
  obtain ⟨ofSilver, reconciled⟩ := produced.reconciled returned
  exact ⟨ofSilver, enriched_eq reconciled.identified, reconciled.conserves⟩

/-- The silver tables of a batch that the mart reads. -/
def silverTables (batchId : String) (sources : Sources) :
    List SilverOrder × List SilverPayment × List PaymentReject :=
  (silverOfBatch batchId sources.orders.silver, silverOfBatch batchId sources.payments.silver,
    rejectsOfBatch batchId sources.payments.rejects)

def sampleSources : Sources :=
  firstSources sampleCustomers sampleProducts sampleOrders samplePayments

theorem sampleSources_valid :
    validateSources "b1" sampleSources = .ok (silverTables "b1" sampleSources) := by rfl

theorem sample_daily_conserves :
    Conserves "b1" (ofBatch "b1" sampleSources.bronzePayments).length
      (silverTables "b1" sampleSources).1 (silverTables "b1" sampleSources).2.1
      (silverTables "b1" sampleSources).2.2
      (summarize (silverTables "b1" sampleSources).1 (silverTables "b1" sampleSources).2.1
        (silverTables "b1" sampleSources).2.2) :=
  (daily_conserves_silver (firstSources_produced _ _ _ _) sampleSources_valid).2.2

/-! Two orders of a day whose totals do not fit a bigint together. -/

def hugeOrders : List (BronzeRow OrderColumns) :=
  sampleOrders.map (fun row =>
    { row with
      columns := { row.columns with
        quantity := some 1, unitPriceCents := some 4611686018427387904, totalCents := some 4611686018427387904 } }) ++
  sampleOrders.map fun row =>
    { row with
      sourceRowHash := { text := "0c", hex := by decide }
      columns := { row.columns with
        orderId := some "O2", quantity := some 1, unitPriceCents := some 4611686018427387904,
        totalCents := some 4611686018427387904 } }

def hugeSources : Sources :=
  firstSources sampleCustomers sampleProducts hugeOrders samplePayments

theorem hugeSources_valid :
    validateSources "b1" hugeSources = .ok (silverTables "b1" hugeSources) := by rfl

theorem hugeOrders_fresh :
    FreshBatch sampleSha2 hugeOrders "b1"
      (noTables : SilverTables Orders.OrderSilver Orders.OrderSilver) where
  present := List.cons_ne_nil _ _
  unique := by decide
  noSilver := rfl
  noRejects := rfl
  ownIds := fun _ none => absurd none List.not_mem_nil

/-- Sources that the jobs produced and that pass the checks, whose ordered amount wraps. -/
theorem huge_orders_wrap :
    ProducedSources sampleSha2 "b1" sampleCustomers sampleProducts hugeSources ∧
      validateSources "b1" hugeSources = .ok (silverTables "b1" hugeSources) ∧
      ((summarize (silverTables "b1" hugeSources).1 (silverTables "b1" hugeSources).2.1
          (silverTables "b1" hugeSources).2.2).map fun row =>
        cents row.measures.orderedAmountCents).sum ≠
          orderedTotal (silverTables "b1" hugeSources).1 := by
  refine ⟨⟨?_, ?_, ?_, ?_⟩, hugeSources_valid, by decide +kernel⟩
  · exact produced_fresh Customers.lawful sampleSha2_injective (sample_fresh _)
  · exact produced_fresh Products.lawful sampleSha2_injective (sample_fresh _)
  · exact produced_fresh (Orders.lawful _ _ _) sampleSha2_injective hugeOrders_fresh
  · exact produced_fresh Payments.lawful sampleSha2_injective (sample_fresh _)

end GoldCommerceDaily
end Spark
end LakehouseOps
