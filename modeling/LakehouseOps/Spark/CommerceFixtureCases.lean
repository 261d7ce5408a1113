import LakehouseOps.Ingestion.CommerceFixture
import LakehouseOps.Spark.SilverCommerceBatches

/-!
# Quality cases of the fixture

The silver rules find in a generated batch what its configuration declares: as many repeated
orders, late orders, payments without an amount and customers without an email, and no error
of another kind.
-/

namespace LakehouseOps
namespace Spark
namespace CommerceFixtureCases

open Library Library.Table Library.Fallible
open SilverCommerce
open SilverCommerce.Customers (CustomerColumns)
open SilverCommerce.Products (ProductColumns)
open SilverCommerce.Orders (OrderColumns)
open SilverCommerce.Payments (PaymentColumns)
open Ingestion.CommerceFixture

/-! ## Ids -/

/-- A padded number has its value. -/
theorem zeroPadded_injective (width : Nat) : Function.Injective (zeroPadded width) := by
  intro left right same
  have values := congrArg (fun digits => Nat.ofDigitChars 10 digits 0) (String.ofList_injective same)
  simpa only [Nat.ofDigitChars_append, Nat.ofDigitChars_replicate_zero, Nat.mul_zero,
    Nat.ofDigitChars_ten_toDigits] using values

/-- An id of a letter and a padded number tells the number. -/
theorem padded_injective (first : String) (width : Nat) :
    Function.Injective fun index => some (first ++ zeroPadded width index) := by
  intro left right same
  have texts := congrArg String.toList (Option.some.inj same)
  rw [String.toList_append, String.toList_append] at texts
  exact zeroPadded_injective width (String.toList_inj.mp (List.append_cancel_left texts))

/-- A text that starts with a letter is not blank. -/
theorem blank_of_head
    {letter : Char}
    {text : String}
    (starts : text.toList.head? = some letter)
    (visible : letter ≠ ' ') :
    SilverWeather.blank (some text) = false := by
  obtain ⟨rest, isText⟩ : Exists fun rest => text.toList = letter :: rest :=
    List.head?_eq_some_iff.mp starts
  have kept : SilverWeather.trim text ≠ [] := by
    unfold SilverWeather.trim
    rw [isText, List.dropWhile_cons_of_neg (by simpa using visible)]
    intro nothing
    have allSpace := List.dropWhile_eq_nil_iff.mp (List.reverse_eq_nil_iff.mp nothing) letter
      (List.mem_reverse.mpr List.mem_cons_self)
    exact visible (of_decide_eq_true allSpace)
  exact decide_eq_false (mt List.length_eq_zero_iff.mp kept)

/-- An id is not blank. -/
theorem blank_append
    {letter : Char}
    {first : String}
    (starts : first.toList.head? = some letter)
    (visible : letter ≠ ' ')
    (rest : String) :
    SilverWeather.blank (some (first ++ rest)) = false := by
  apply blank_of_head _ visible
  rw [String.toList_append, List.head?_append, starts, Option.some_or]

theorem nodup_indices (count : Int) : (indices count).Nodup :=
  List.nodup_range'

theorem mem_indices {count : Int} {index : Nat} :
    index ∈ indices count ↔ 1 ≤ index ∧ (index : Int) ≤ count := by
  unfold indices
  rw [List.mem_range'_1]
  omega

/-- Of the indices, a bound holds for as many as it says. -/
theorem countP_indices {count bound : Int} (atLeast : 0 ≤ bound) (atMost : bound ≤ count) :
    (indices count).countP (fun index : Nat => decide ((index : Int) ≤ bound)) = bound.toNat := by
  have within : forall number : Nat,
      (List.range' 1 number).countP (fun index : Nat => decide ((index : Int) ≤ bound)) =
        min number bound.toNat := by
    intro number
    induction number with
    | zero => simp
    | succ number inductionHypothesis =>
        rw [List.range'_1_concat, List.countP_append, inductionHypothesis, List.countP_singleton]
        split <;> rename_i holds <;> simp only [decide_eq_true_eq] at holds <;> omega
  unfold indices
  rw [within]
  omega

/-! ## Bronze tables -/

/-- The rows of the batch in a bronze table are the records, with any hashes and any
occurrences. -/
structure Landed {Columns : Type}
    (batchId : String)
    (batchAt : Timestamp)
    (records : List Columns)
    (table : List (BronzeRow Columns)) : Prop where
  records : ((ofBatch batchId table).map BronzeRow.columns).Perm records
  batchAt : forall row, row ∈ ofBatch batchId table -> row.sourceBatchAt = some batchAt

section Landed

variable {Columns : Type} {batchId : String} {batchAt : Timestamp} {records : List Columns}
  {table : List (BronzeRow Columns)}

theorem Landed.mem_iff (landed : Landed batchId batchAt records table) {record : Columns} :
    record ∈ records ↔
      Exists fun row => row ∈ ofBatch batchId table ∧ row.columns = record := by
  rw [← landed.records.mem_iff, List.mem_map]

theorem Landed.record_mem
    (landed : Landed batchId batchAt records table)
    {row : BronzeRow Columns}
    (member : row ∈ ofBatch batchId table) :
    row.columns ∈ records :=
  landed.mem_iff.mpr ⟨row, member, rfl⟩

theorem Landed.length_eq (landed : Landed batchId batchAt records table) :
    (ofBatch batchId table).length = records.length := by
  rw [← landed.records.length_eq, List.length_map]

end Landed

/-! ## Configurations -/

/-- What the checks of a configuration leave. -/
structure Accepted (config : CommerceFixtureConfig) : Prop where
  positive : 1 ≤ config.customers ∧ 1 ≤ config.products ∧ 1 ≤ config.orders
  nullCustomerEmails : 0 ≤ config.nullCustomerEmails ∧
    config.nullCustomerEmails ≤ config.customers
  duplicateOrders : 0 ≤ config.duplicateOrders ∧ config.duplicateOrders ≤ config.orders
  lateOrders : 0 ≤ config.lateOrders ∧ config.lateOrders ≤ config.orders
  invalidPayments : 0 ≤ config.invalidPayments ∧ config.invalidPayments ≤ config.orders
  fits : config.lateOrders + config.duplicateOrders ≤ config.orders

theorem accepted_of_postInit
    {config : CommerceFixtureConfig}
    (passed : config.postInit = .ok ⟨⟩) :
    Accepted config := by
  simp only [CommerceFixtureConfig.postInit, bind_eq_ok_iff, reject_eq_ok_iff] at passed
  obtain ⟨_, positive, _, limits, _, fits, _⟩ := passed
  have each := forM_eq_ok_iff.mp limits
  simp only [CommerceFixtureConfig.limits, List.forall_mem_cons, reject_eq_ok_iff, not_not] at each
  obtain ⟨nullCustomerEmails, duplicateOrders, lateOrders, invalidPayments, _⟩ := each
  exact ⟨by omega, nullCustomerEmails, duplicateOrders, lateOrders, invalidPayments, by omega⟩

/-! ## Customers and products -/

theorem isDigit_of_mem_zeroPadded {width index : Nat} {character : Char}
    (member : character ∈ (zeroPadded width index).toList) :
    character.isDigit = true := by
  rw [zeroPadded, String.toList_ofList] at member
  rcases List.mem_append.mp member with zero | digit
  · rw [List.eq_of_mem_replicate zero]
    rfl
  · exact Nat.isDigit_of_mem_toDigits (by decide) (by decide) digit

/-- The name in the address of a customer. -/
def addressName (index : Nat) : List Char :=
  "customer".toList ++ (zeroPadded 8 index).toList

theorem addressName_visible (index : Nat) :
    forall character, character ∈ addressName index ->
      character ≠ '@' ∧ character ∉ [' ', '\t', '\n', '\x0b', '\x0c', '\r'] := by
  intro character member
  have alphanumeric : character.isAlphanum = true := by
    rcases List.mem_append.mp member with letter | digit
    · exact List.all_eq_true.mp (by decide : "customer".toList.all Char.isAlphanum = true) _ letter
    · rw [Char.isAlphanum, isDigit_of_mem_zeroPadded digit, Bool.or_true]
  constructor
  · rintro rfl
    exact absurd alphanumeric (by decide)
  · intro space
    simp only [List.mem_cons, List.not_mem_nil, or_false] at space
    rcases space with rfl | rfl | rfl | rfl | rfl | rfl <;> exact absurd alphanumeric (by decide)

/-- The address of a customer is one. -/
theorem matchesEmailPattern_customer (index : Nat) :
    Customers.matchesEmailPattern ("customer" ++ zeroPadded 8 index ++ "@example.test") = true := by
  have visible := addressName_visible index
  have text : ("customer" ++ zeroPadded 8 index ++ "@example.test").toList =
      addressName index ++ "@example.test".toList := by
    rw [String.toList_append, String.toList_append]
    rfl
  have noAt : forall character, character ∈ addressName index ->
      decide (character ≠ '@') = true :=
    fun character member => decide_eq_true (visible character member).1
  have isAddress : Customers.isAddress (addressName index ++ "@example.test".toList) = true := by
    unfold Customers.isAddress
    rw [List.takeWhile_append_of_pos noAt, List.dropWhile_append_of_pos noAt]
    have name : Customers.addressPart (addressName index ++
        "@example.test".toList.takeWhile fun character => character ≠ '@') = true := by
      have nothing : ("@example.test".toList.takeWhile fun character => character ≠ '@') = [] := rfl
      rw [nothing, List.append_nil, Customers.addressPart, Bool.and_eq_true, List.all_eq_true]
      refine ⟨rfl, fun character member => ?_⟩
      rw [Bool.and_eq_true]
      exact ⟨noAt character member, decide_eq_true (visible character member).2⟩
    rw [name]
    rfl
  unfold Customers.matchesEmailPattern
  simp only [text, isAddress, Bool.true_or]

/-- A generated customer breaks no rule. -/
theorem customer_passes
    {config : CommerceFixtureConfig}
    {revision index : Nat}
    {row : BronzeRow CustomerColumns}
    (generated : row.columns = customer config revision index) :
    Passing Customers.rules row := by
  have noId : SilverWeather.blank (some ("C" ++ zeroPadded 8 index)) = false :=
    blank_append rfl (by decide) _
  have starts : ("Customer " ++ zeroPadded 8 index).toList.head? = some 'C' := by
    rw [String.toList_append]
    rfl
  have noName : SilverWeather.blank (customer config revision index).fullName = false :=
    blank_append starts (by decide) _
  have noEmail : ((customer config revision index).email.any fun email =>
      !Customers.matchesEmailPattern email) = false := by
    unfold customer
    dsimp only
    split
    · rfl
    · rw [Option.any_some, matchesEmailPattern_customer]
      rfl
  apply triggered_eq_nil_iff.mpr
  simp only [Customers.rules, generated, List.forall_mem_cons]
  exact ⟨noId, noName, rfl, noEmail, List.forall_mem_nil _⟩

/-- A number that fits has its value. -/
theorem toInt_ofInt_small {number : Int} (low : -(2 ^ 62) ≤ number) (high : number < 2 ^ 62) :
    (Int64.ofInt number).toInt = number := by
  rw [Int64.toInt_ofInt]
  exact Int.bmod_eq_of_le (by simp only [Int64.size]; omega) (by simp only [Int64.size]; omega)

theorem nonPositive_ofInt {number : Int} (positive : 0 < number) (high : number < 2 ^ 62) :
    nonPositive (some (Int64.ofInt number)) = false := by
  apply decide_eq_false
  rw [Int64.le_iff_toInt_le, toInt_ofInt_small (by omega) high]
  exact not_le.mpr positive

theorem unitPrice_bounds (index : Nat) : 500 ≤ unitPrice index ∧ unitPrice index < 50000 := by
  unfold unitPrice
  omega

/-- A generated product breaks no rule. -/
theorem product_passes
    {index : Nat}
    {row : BronzeRow ProductColumns}
    (generated : row.columns = product index) :
    Passing Products.rules row := by
  have bounds := unitPrice_bounds index
  apply triggered_eq_nil_iff.mpr
  simp only [Products.rules, generated, List.forall_mem_cons]
  exact ⟨blank_append rfl (by decide) _, blank_append rfl (by decide) _,
    blank_append rfl (by decide) _, rfl, nonPositive_ofInt (by omega) (by omega),
    List.forall_mem_nil _⟩

section Cases

variable {config : CommerceFixtureConfig} {revision : Nat} {batchId : String}
  {batchAt : Timestamp}

theorem customers_distinct (config : CommerceFixtureConfig) (revision : Nat) :
    ((customers config revision).map CustomerColumns.customerId).Nodup := by
  rw [customers, List.map_map]
  exact (nodup_indices _).map (padded_injective "C" 8)

theorem products_distinct (config : CommerceFixtureConfig) :
    ((products config).map ProductColumns.productId).Nodup := by
  rw [products, List.map_map]
  exact (nodup_indices _).map (padded_injective "P" 6)

/-- Where all rows have different keys and pass, none is rejected. -/
theorem no_rejects
    {Columns Rank : Type}
    [LinearOrder Rank]
    {records : List Columns}
    {table : List (BronzeRow Columns)}
    {key : BronzeRow Columns -> Option String}
    {order : BronzeRow Columns -> Rank}
    {rules : BronzeRow Columns -> List (Bool × String)}
    {id : Columns -> Option String}
    (duplicate : String)
    (keyed : forall row, id row.columns = key row)
    (landed : Landed batchId batchAt records table)
    (distinct : (records.map id).Nodup)
    (passing : forall row, row ∈ ofBatch batchId table -> Passing rules row) :
    ((accepted (classifyRanked key order rules duplicate (ofBatch batchId table))).map fun entry =>
        entry.row.columns).Perm records ∧
      rejected (classifyRanked key order rules duplicate (ofBatch batchId table)) = [] := by
  have kept : ((accepted (classifyRanked key order rules duplicate (ofBatch batchId table))).map
      fun entry => entry.row.columns).Perm records :=
    accepted_perm_of_passing duplicate keyed distinct passing fun _ => landed.mem_iff
  refine ⟨kept, List.length_eq_zero_iff.mp ?_⟩
  have whole := length_accepted_add_rejected
    (classifyRanked key order rules duplicate (ofBatch batchId table))
  rw [length_classifyRanked, landed.length_eq, ← kept.length_eq, List.length_map] at whole
  omega

/-- As many customers are without an email as are configured. -/
theorem countP_null_emails (fits : Accepted config) (revision : Nat) :
    (customers config revision).countP (fun columns => columns.email.isNone) =
      config.nullCustomerEmails.toNat := by
  rw [← countP_indices fits.nullCustomerEmails.1 fits.nullCustomerEmails.2, customers,
    List.countP_map]
  apply List.countP_congr
  intro index _
  rw [Function.comp_apply]
  unfold customer
  dsimp only
  split <;> rename_i missing <;> simp [missing]

/-- The customers are all accepted. -/
theorem customers_accepted
    {customerTable : List (BronzeRow CustomerColumns)}
    (landed : Landed batchId batchAt (customers config revision) customerTable) :
    ((accepted (Customers.classify (ofBatch batchId customerTable))).map fun entry =>
        entry.row.columns).Perm (customers config revision) ∧
      rejected (Customers.classify (ofBatch batchId customerTable)) = [] := by
  apply no_rejects "duplicate_customer_id" (fun _ => rfl : forall row : BronzeRow CustomerColumns,
    row.columns.customerId = Customers.businessKey row) landed (customers_distinct config revision)
  intro row member
  obtain ⟨index, _, generated⟩ := List.mem_map.mp (landed.record_mem member)
  exact customer_passes generated.symm

/-- The products are all accepted. -/
theorem products_accepted
    {productTable : List (BronzeRow ProductColumns)}
    (landed : Landed batchId batchAt (products config) productTable) :
    rejected (Products.classify (ofBatch batchId productTable)) = [] := by
  apply And.right
  apply no_rejects "duplicate_product_id" (fun _ => rfl : forall row : BronzeRow ProductColumns,
    row.columns.productId = Products.businessKey row) landed (products_distinct config)
  intro row member
  obtain ⟨index, _, generated⟩ := List.mem_map.mp (landed.record_mem member)
  exact product_passes generated.symm

/-! ## Orders -/

theorem age_bounds (config : CommerceFixtureConfig) (index : Nat) :
    0 ≤ age config index ∧ age config index < 60 * day ∧
      (age config index ≤ 30 * day ↔ ¬(index : Int) ≤ config.lateOrders) := by
  have days : ageDays config index ≤ 59 ∧
      ((45 ≤ ageDays config index ∧ (index : Int) ≤ config.lateOrders) ∨
        (ageDays config index < 30 ∧ ¬(index : Int) ≤ config.lateOrders)) := by
    unfold ageDays
    split <;> omega
  have seconds : index % 86400 < 86400 := Nat.mod_lt _ (by decide)
  simp only [age, day, second]
  omega

/-- The orders of a batch, without the repeated ones. -/
def canonicalOrders
    (config : CommerceFixtureConfig)
    (batchAt : Timestamp)
    (draws : Nat -> Draw config) : List OrderColumns :=
  (indices config.orders).map fun index =>
    orderAt batchAt (draws index) index (batchAt - age config index)

/-- Sixty days after the least time no order is too old. -/
theorem orders_eq
    (lateEnough : minTime + 60 * day ≤ batchAt)
    (draws : Nat -> Draw config) :
    orders config batchAt draws = .ok (canonicalOrders config batchAt draws) := by
  have returns : forall (index : Nat) (result : OrderColumns),
      (do
        let eventAt <- minus batchAt (age config index)
        return orderAt batchAt (draws index) index eventAt) = .ok result ↔
      True ∧ result = orderAt batchAt (draws index) index (batchAt - age config index) := by
    intro index result
    have recent := (age_bounds config index).2.1
    have kept : minus batchAt (age config index) = .ok (batchAt - age config index) := by
      unfold minus
      exact if_neg (not_lt.mpr (by linarith))
    rw [kept, true_and]
    exact ⟨fun same => (Except.ok.inj same).symm, fun same => congrArg Except.ok same.symm⟩
  exact (mapM_eq_ok_iff returns).mpr ⟨fun _ _ => trivial, rfl⟩

theorem canonicalOrders_distinct
    (config : CommerceFixtureConfig)
    (batchAt : Timestamp)
    (draws : Nat -> Draw config) :
    ((canonicalOrders config batchAt draws).map OrderColumns.orderId).Nodup := by
  rw [canonicalOrders, List.map_map]
  exact (nodup_indices _).map (padded_injective "O" 10)

theorem length_canonicalOrders
    (config : CommerceFixtureConfig)
    (batchAt : Timestamp)
    (draws : Nat -> Draw config) :
    (canonicalOrders config batchAt draws).length = config.orders.toNat := by
  rw [canonicalOrders, List.length_map, indices, List.length_range']

/-- The total of an order is its quantity times its price. -/
theorem totalMismatch_orderAt
    (batchAt : Timestamp)
    (draw : Draw config)
    (index : Nat)
    (eventAt : Timestamp) :
    Orders.totalMismatch (orderAt batchAt draw index eventAt) = false := by
  obtain ⟨low, high⟩ := draw.quantityInRange
  have widened : (Int32.ofInt draw.quantity).toInt64 = Int64.ofInt draw.quantity := by
    have each : forall quantity : Nat, quantity ≤ 5 ->
        (Int32.ofInt quantity).toInt64 = Int64.ofInt quantity := by
      decide
    exact each draw.quantity high
  unfold Orders.totalMismatch orderAt
  simp only [ne_eq, decide_not, Bool.not_eq_eq_eq_not, Bool.not_false, decide_eq_true_eq]
  rw [widened, Int64.ofInt_mul]

/-- The total of an order is positive and fits. -/
theorem nonPositive_total (draw : Draw config) :
    nonPositive (some (Int64.ofInt (draw.quantity * unitPrice (draw.productIndex + 1)))) =
      false := by
  have bounds := unitPrice_bounds (draw.productIndex + 1)
  obtain ⟨low, high⟩ := draw.quantityInRange
  have below : draw.quantity * unitPrice (draw.productIndex + 1) ≤ 5 * 50000 :=
    Nat.mul_le_mul high bounds.2.le
  have above : 0 < draw.quantity * unitPrice (draw.productIndex + 1) :=
    Nat.mul_pos low (by omega)
  have cast : ((draw.quantity * unitPrice (draw.productIndex + 1) : Nat) : Int) ≤ 5 * 50000 := by
    exact_mod_cast below
  push_cast at cast
  exact nonPositive_ofInt (by exact_mod_cast above) (by omega)

theorem found_isSome
    {Columns : Type}
    {records : List Columns}
    {table : List (BronzeRow Columns)}
    {key : BronzeRow Columns -> Option String}
    {id : Columns -> Option String}
    (keyed : forall row, id row.columns = key row)
    (landed : Landed batchId batchAt records table)
    {record : Columns}
    (member : record ∈ records)
    {value : String}
    (isId : id record = some value) :
    (Orders.found (Orders.batchIds key batchId table) (some value)).isNone = false := by
  obtain ⟨row, inBatch, rfl⟩ := landed.mem_iff.mp member
  have known : some value ∈ Orders.batchIds key batchId table :=
    List.mem_map.mpr ⟨row, inBatch, by rw [← keyed, isId]⟩
  unfold Orders.found
  rw [if_pos ⟨rfl, known⟩]
  rfl

/-- A generated order breaks no rule where the customers and products are landed. -/
theorem order_passes
    {customerTable : List (BronzeRow CustomerColumns)}
    {productTable : List (BronzeRow ProductColumns)}
    (landedCustomers : Landed batchId batchAt (customers config revision) customerTable)
    (landedProducts : Landed batchId batchAt (products config) productTable)
    {draw : Draw config}
    {index : Nat}
    {eventAt : Timestamp}
    {row : BronzeRow OrderColumns}
    (generated : row.columns = orderAt batchAt draw index eventAt) :
    Passing (Orders.referenceRules customerTable productTable batchId) row := by
  have isCustomer : customer config revision draw.customerIndex ∈ customers config revision :=
    List.mem_map_of_mem (mem_indices.mpr ⟨draw.customerInRange.1, by
      have inRange := draw.customerInRange.2
      omega⟩)
  have isProduct : product (draw.productIndex + 1) ∈ products config :=
    List.mem_map_of_mem (mem_indices.mpr ⟨by omega, by
      have inRange := draw.productInRange
      omega⟩)
  have knownCustomer := found_isSome (fun _ => rfl : forall row : BronzeRow CustomerColumns,
    row.columns.customerId = Customers.businessKey row) landedCustomers isCustomer rfl
  have knownProduct := found_isSome (fun _ => rfl : forall row : BronzeRow ProductColumns,
    row.columns.productId = Products.businessKey row) landedProducts isProduct rfl
  have bounds := unitPrice_bounds (draw.productIndex + 1)
  obtain ⟨low, high⟩ := draw.quantityInRange
  have positive : decide (Int32.ofInt draw.quantity ≤ 0) = false := by
    have each : forall quantity : Nat, quantity ≤ 5 -> 1 ≤ quantity ->
        decide (Int32.ofInt quantity ≤ 0) = false := by
      decide
    exact each draw.quantity high low
  have price : nonPositive (some (Int64.ofInt (unitPrice (draw.productIndex + 1)))) = false :=
    nonPositive_ofInt (by omega) (by omega)
  have total := nonPositive_total draw
  apply triggered_eq_nil_iff.mpr
  simp only [Orders.referenceRules, Orders.rules, generated, List.forall_mem_cons]
  exact ⟨blank_append rfl (by decide) _, blank_append rfl (by decide) _,
    blank_append rfl (by decide) _, rfl, positive, rfl, price, rfl, total,
    totalMismatch_orderAt batchAt draw index eventAt, rfl, rfl, knownCustomer, knownProduct,
    List.forall_mem_nil _⟩

/-- The orders of the table: the canonical ones, and those that are repeated. -/
def repeatedOrders (config : CommerceFixtureConfig) (orders : List OrderColumns) :
    List OrderColumns :=
  orders ++ (orders.drop config.lateOrders.toNat).take config.duplicateOrders.toNat

theorem mem_repeatedOrders {orders : List OrderColumns} {order : OrderColumns} :
    order ∈ repeatedOrders config orders ↔ order ∈ orders := by
  unfold repeatedOrders
  rw [List.mem_append, or_iff_left_iff_imp]
  exact fun member => List.mem_of_mem_drop (List.mem_of_mem_take member)

section OrderTable

variable {customerTable : List (BronzeRow CustomerColumns)}
  {productTable : List (BronzeRow ProductColumns)} {orderTable : List (BronzeRow OrderColumns)}
  {draws : Nat -> Draw config}

theorem orders_pass
    (landedCustomers : Landed batchId batchAt (customers config revision) customerTable)
    (landedProducts : Landed batchId batchAt (products config) productTable)
    (landedOrders : Landed batchId batchAt
      (repeatedOrders config (canonicalOrders config batchAt draws)) orderTable) :
    forall row, row ∈ ofBatch batchId orderTable ->
      Passing (Orders.referenceRules customerTable productTable batchId) row := by
  intro row member
  obtain ⟨index, _, same⟩ := List.mem_map.mp (mem_repeatedOrders.mp (landedOrders.record_mem member))
  exact order_passes landedCustomers landedProducts same.symm

/-- The accepted orders are the canonical ones, whatever is repeated. -/
theorem accepted_orders_perm
    (landedCustomers : Landed batchId batchAt (customers config revision) customerTable)
    (landedProducts : Landed batchId batchAt (products config) productTable)
    (landedOrders : Landed batchId batchAt
      (repeatedOrders config (canonicalOrders config batchAt draws)) orderTable) :
    ((accepted (Orders.classify customerTable productTable batchId
      (ofBatch batchId orderTable))).map fun entry => entry.row.columns).Perm
        (canonicalOrders config batchAt draws) := by
  rw [Orders.classify_eq]
  exact accepted_perm_of_passing _ (fun _ => rfl : forall row : BronzeRow OrderColumns,
      row.columns.orderId = Orders.businessKey row) (canonicalOrders_distinct config batchAt draws)
    (orders_pass landedCustomers landedProducts landedOrders)
    fun order => mem_repeatedOrders.symm.trans landedOrders.mem_iff

/-- The lateness of a row, told from its columns. -/
def lateAt (batchAt : Timestamp) (columns : OrderColumns) : Bool :=
  columns.eventAt.any fun eventAt => eventAt < batchAt - 30 * 86400 * 1000000

theorem isLate_eq_lateAt {row : BronzeRow OrderColumns} (batch : row.sourceBatchAt = some batchAt) :
    decide (Orders.isLate row = some true) = lateAt batchAt row.columns := by
  unfold Orders.isLate lateAt
  rw [batch]
  cases row.columns.eventAt with
  | none => rfl
  | some eventAt => simp

/-- A generated order is late when its index is among the first ones. -/
theorem lateAt_orderAt (draw : Draw config) (index : Nat) :
    lateAt batchAt (orderAt batchAt draw index (batchAt - age config index)) =
      decide ((index : Int) ≤ config.lateOrders) := by
  have boundary := (age_bounds config index).2.2
  have isEvent : (orderAt batchAt draw index (batchAt - age config index)).eventAt =
      some (batchAt - age config index) := rfl
  have months : (30 * 86400 * 1000000 : Int) = 30 * day := by decide
  unfold lateAt
  rw [isEvent, Option.any_some, months, decide_eq_decide, ← not_iff_not, not_lt, ← boundary]
  constructor <;> intro older <;> linarith

/-- The repeated orders fit behind the late ones. -/
theorem length_repeatedOrders
    (config : CommerceFixtureConfig)
    (fits : Accepted config)
    (draws : Nat -> Draw config) :
    (repeatedOrders config (canonicalOrders config batchAt draws)).length =
      config.orders.toNat + config.duplicateOrders.toNat := by
  obtain ⟨duplicateOrders, _⟩ := fits.duplicateOrders
  obtain ⟨lateOrders, _⟩ := fits.lateOrders
  have room := fits.fits
  rw [repeatedOrders, List.length_append, List.length_take, List.length_drop,
    length_canonicalOrders]
  omega

/-- As many orders are accepted as are configured. -/
theorem length_accepted_orders
    (landedCustomers : Landed batchId batchAt (customers config revision) customerTable)
    (landedProducts : Landed batchId batchAt (products config) productTable)
    (landedOrders : Landed batchId batchAt
      (repeatedOrders config (canonicalOrders config batchAt draws)) orderTable) :
    (accepted (Orders.classify customerTable productTable batchId
      (ofBatch batchId orderTable))).length = config.orders.toNat := by
  have kept := accepted_orders_perm landedCustomers landedProducts landedOrders
  rw [← length_canonicalOrders config batchAt draws, ← kept.length_eq, List.length_map]

/-- As many orders are rejected as are repeated. -/
theorem length_rejected_orders
    (fits : Accepted config)
    (landedCustomers : Landed batchId batchAt (customers config revision) customerTable)
    (landedProducts : Landed batchId batchAt (products config) productTable)
    (landedOrders : Landed batchId batchAt
      (repeatedOrders config (canonicalOrders config batchAt draws)) orderTable) :
    (rejected (Orders.classify customerTable productTable batchId
      (ofBatch batchId orderTable))).length = config.duplicateOrders.toNat := by
  have valid := length_accepted_orders landedCustomers landedProducts landedOrders
  have whole := length_accepted_add_rejected
    (Orders.classify customerTable productTable batchId (ofBatch batchId orderTable))
  have classified : (Orders.classify customerTable productTable batchId
      (ofBatch batchId orderTable)).length =
        config.orders.toNat + config.duplicateOrders.toNat := by
    rw [Orders.classify_eq, length_classifyRanked, landedOrders.length_eq,
      length_repeatedOrders config fits draws]
  omega

/-- As many accepted orders are late as are configured. -/
theorem countP_late_orders
    (fits : Accepted config)
    (landedCustomers : Landed batchId batchAt (customers config revision) customerTable)
    (landedProducts : Landed batchId batchAt (products config) productTable)
    (landedOrders : Landed batchId batchAt
      (repeatedOrders config (canonicalOrders config batchAt draws)) orderTable) :
    (accepted (Orders.classify customerTable productTable batchId
      (ofBatch batchId orderTable))).countP (fun entry =>
        decide (Orders.isLate entry.row = some true)) = config.lateOrders.toNat := by
  have kept := accepted_orders_perm landedCustomers landedProducts landedOrders
  have inBatch : forall entry, entry ∈ accepted (Orders.classify customerTable productTable
      batchId (ofBatch batchId orderTable)) -> entry.row.sourceBatchAt = some batchAt := by
    intro entry member
    exact landedOrders.batchAt entry.row (((Orders.lawful customerTable
      productTable batchId).keepsRows _).mem_iff.mp (List.mem_map_of_mem (List.mem_of_mem_filter member)))
  calc
    _ = (accepted (Orders.classify customerTable productTable batchId
          (ofBatch batchId orderTable))).countP fun entry =>
            lateAt batchAt entry.row.columns :=
      List.countP_congr fun entry member => by rw [isLate_eq_lateAt (inBatch entry member)]
    _ = (canonicalOrders config batchAt draws).countP (lateAt batchAt) := by
      rw [← kept.countP_eq, List.countP_map]
      rfl
    _ = (indices config.orders).countP fun index : Nat =>
          decide ((index : Int) ≤ config.lateOrders) := by
      rw [canonicalOrders, List.countP_map]
      exact List.countP_congr fun index _ => by rw [Function.comp_apply, lateAt_orderAt]
    _ = config.lateOrders.toNat := countP_indices fits.lateOrders.1 fits.lateOrders.2

end OrderTable

/-! ## Payments -/

section PaymentTable

variable {draws : Nat -> Draw config} {paymentTable : List (BronzeRow PaymentColumns)}

/-- The payment of an order has the index of the order. -/
theorem payments_eq
    (config : CommerceFixtureConfig)
    (batchAt : Timestamp)
    (draws : Nat -> Draw config) :
    payments config (canonicalOrders config batchAt draws) =
      (indices config.orders).map fun index =>
        payment config index (orderAt batchAt (draws index) index (batchAt - age config index)) := by
  have numbered : forall number first : Nat,
      (((List.range' first number).map fun index =>
        orderAt batchAt (draws index) index (batchAt - age config index)).zipIdx first) =
        (List.range' first number).map fun index =>
          (orderAt batchAt (draws index) index (batchAt - age config index), index) := by
    intro number
    induction number with
    | zero => exact fun _ => rfl
    | succ number inductionHypothesis =>
        intro first
        rw [List.range'_succ, List.map_cons, List.map_cons, List.zipIdx_cons, inductionHypothesis]
  rw [payments, canonicalOrders, indices, numbered, List.map_map]
  rfl

theorem payments_distinct
    (config : CommerceFixtureConfig)
    (batchAt : Timestamp)
    (draws : Nat -> Draw config) :
    ((payments config (canonicalOrders config batchAt draws)).map
      PaymentColumns.paymentId).Nodup := by
  rw [payments_eq, List.map_map]
  exact (nodup_indices _).map (padded_injective "PAY" 10)

/-- The only rule that a generated payment can break wants an amount. -/
theorem triggered_payment
    {draw : Draw config}
    {index : Nat}
    {eventAt : Timestamp}
    {row : BronzeRow PaymentColumns}
    (generated : row.columns = payment config index (orderAt batchAt draw index eventAt)) :
    triggered (Payments.rules row) =
      if (index : Int) ≤ config.invalidPayments then ["missing_amount_cents"] else [] := by
  have noId : SilverWeather.blank (some ("PAY" ++ zeroPadded 10 index)) = false :=
    blank_append rfl (by decide) _
  have noOrder : SilverWeather.blank (some ("O" ++ zeroPadded 10 index)) = false :=
    blank_append rfl (by decide) _
  have paymentId : row.columns.paymentId = some ("PAY" ++ zeroPadded 10 index) := by
    rw [generated]
    rfl
  have orderId : row.columns.orderId = some ("O" ++ zeroPadded 10 index) := by
    rw [generated]
    rfl
  have status : row.columns.status = some "captured" := by
    rw [generated]
    rfl
  have paidAt : row.columns.paidAt = some batchAt := by
    rw [generated]
    rfl
  have amountCents : row.columns.amountCents = if (index : Int) ≤ config.invalidPayments then none
      else some (Int64.ofInt (draw.quantity * unitPrice (draw.productIndex + 1))) := by
    rw [generated]
    rfl
  have known : SilverWeather.blank (some "captured") = false := rfl
  have isState : "captured" ∈ Payments.paymentStates := List.mem_cons_self
  unfold Payments.rules
  rw [paymentId, orderId, status, paidAt, amountCents, noId, noOrder, known]
  by_cases invalid : (index : Int) ≤ config.invalidPayments
  · rw [if_pos invalid, if_pos invalid]
    simp [triggered, isState, nonPositive]
  · rw [if_neg invalid, if_neg invalid, nonPositive_total]
    simp [triggered, isState]

/-- The only error of a generated payment is that it has no amount. -/
theorem errors_payment
    (landed : Landed batchId batchAt
      (payments config (canonicalOrders config batchAt draws)) paymentTable)
    {entry : ClassifiedRow PaymentColumns}
    (member : entry ∈ Payments.classify (ofBatch batchId paymentTable)) :
    entry.errors =
      if entry.row.columns.amountCents.isNone then ["missing_amount_cents"] else [] := by
  obtain ⟨row, inBatch, rfl⟩ := List.mem_map.mp member
  have distinct : ((ofBatch batchId paymentTable).map Payments.businessKey).Nodup := by
    have ids := (landed.records.map PaymentColumns.paymentId).nodup_iff.mpr
      (payments_distinct config batchAt draws)
    rwa [List.map_map] at ids
  have alone : decide (1 < (rowsOf Payments.businessKey (Payments.businessKey row)
      (ofBatch batchId paymentTable)).length) = false := by
    rw [rowsOf_eq_singleton distinct inBatch]
    rfl
  have inRecords := landed.record_mem inBatch
  rw [payments_eq] at inRecords
  obtain ⟨index, _, generated⟩ := List.mem_map.mp inRecords
  rw [triggered_append, triggered_payment generated.symm, alone, ← generated]
  unfold payment
  dsimp only
  split
  · rfl
  · rfl

/-- As many payments are rejected as are configured without an amount. -/
theorem length_rejected_payments
    (fits : Accepted config)
    (landed : Landed batchId batchAt
      (payments config (canonicalOrders config batchAt draws)) paymentTable) :
    (rejected (Payments.classify (ofBatch batchId paymentTable))).length =
      config.invalidPayments.toNat := by
  calc
    _ = (Payments.classify (ofBatch batchId paymentTable)).countP fun entry =>
          entry.row.columns.amountCents.isNone := by
      rw [rejected, ← List.countP_eq_length_filter]
      apply List.countP_congr
      intro entry member
      rw [errors_payment landed member]
      cases entry.row.columns.amountCents.isNone <;> simp
    _ = (payments config (canonicalOrders config batchAt draws)).countP fun columns =>
          columns.amountCents.isNone := by
      have rows := (Payments.classify_perm (ofBatch batchId paymentTable)).map BronzeRow.columns
      rw [← (rows.trans landed.records).countP_eq, List.map_map, List.countP_map]
      rfl
    _ = (indices config.orders).countP fun index : Nat =>
          decide ((index : Int) ≤ config.invalidPayments) := by
      rw [payments_eq, List.countP_map]
      apply List.countP_congr
      intro index _
      rw [Function.comp_apply]
      unfold payment
      dsimp only
      split <;> rename_i invalid <;> simp [invalid, orderAt]
    _ = config.invalidPayments.toNat :=
      countP_indices fits.invalidPayments.1 fits.invalidPayments.2

end PaymentTable

end Cases

/-! ## Quality cases -/

/-- The silver rules find the configured quality cases in the tables of a batch, and no
others. -/
structure QualityCases
    (config : CommerceFixtureConfig)
    (batchId : String)
    (customerTable : List (BronzeRow CustomerColumns))
    (productTable : List (BronzeRow ProductColumns))
    (orderTable : List (BronzeRow OrderColumns))
    (paymentTable : List (BronzeRow PaymentColumns)) : Prop where
  orders : ((accepted (Orders.classify customerTable productTable batchId
    (ofBatch batchId orderTable))).length : Int) = config.orders
  duplicateOrders : ((rejected (Orders.classify customerTable productTable batchId
    (ofBatch batchId orderTable))).length : Int) = config.duplicateOrders
  orderErrors : forall entry, entry ∈ rejected (Orders.classify customerTable productTable batchId
    (ofBatch batchId orderTable)) -> entry.errors = ["duplicate_order_id"]
  lateOrders : (((Orders.job customerTable productTable batchId).valid
    (Orders.classify customerTable productTable batchId (ofBatch batchId orderTable))).countP
      (fun row => row.columns.isLate = some true) : Int) = config.lateOrders
  invalidPayments : ((rejected (Payments.classify (ofBatch batchId paymentTable))).length : Int) =
    config.invalidPayments
  paymentErrors : forall entry, entry ∈ rejected (Payments.classify (ofBatch batchId paymentTable)) ->
    entry.errors = ["missing_amount_cents"]
  nullCustomerEmails : ((Customers.job.valid (Customers.classify
    (ofBatch batchId customerTable))).countP (fun row => row.columns.emailIsMissing) : Int) =
      config.nullCustomerEmails
  customerErrors : rejected (Customers.classify (ofBatch batchId customerTable)) = []
  productErrors : rejected (Products.classify (ofBatch batchId productTable)) = []

/-- An accepted configuration generates its tables sixty days after the least time, and they
have the configured quality cases wherever they land. -/
theorem generated_quality_cases
    {config : CommerceFixtureConfig}
    {batchAt : Timestamp}
    (passed : config.postInit = .ok ⟨⟩)
    (isInstant : config.batchAt = .aware (some batchAt))
    (lateEnough : minTime + 60 * day ≤ batchAt)
    (revision : Nat)
    (draws : Nat -> Draw config) :
    Exists fun tables => writeTables config revision draws = .ok tables ∧
      forall batchId customerTable productTable orderTable paymentTable,
        Landed batchId batchAt tables.customers customerTable ->
        Landed batchId batchAt tables.products productTable ->
        Landed batchId batchAt tables.orders orderTable ->
        Landed batchId batchAt tables.payments paymentTable ->
        QualityCases config batchId customerTable productTable orderTable paymentTable := by
  have fits := accepted_of_postInit passed
  refine ⟨{
    customers := customers config revision
    products := products config
    orders := repeatedOrders config (canonicalOrders config batchAt draws)
    payments := payments config (canonicalOrders config batchAt draws) }, ?_, ?_⟩
  · unfold writeTables
    rw [isInstant]
    dsimp only
    rw [orders_eq lateEnough]
    rfl
  intro batchId customerTable productTable orderTable paymentTable landedCustomers landedProducts
    landedOrders landedPayments
  have validOrders := length_accepted_orders landedCustomers landedProducts landedOrders
  have duplicates := length_rejected_orders fits landedCustomers landedProducts landedOrders
  have late := countP_late_orders fits landedCustomers landedProducts landedOrders
  have invalid := length_rejected_payments fits landedPayments
  have emails := countP_null_emails fits revision
  obtain ⟨keptCustomers, noCustomerErrors⟩ := customers_accepted landedCustomers
  exact {
    orders := by
      rw [validOrders]
      exact Int.toNat_of_nonneg (by linarith [fits.positive.2.2])
    duplicateOrders := by
      rw [duplicates]
      exact Int.toNat_of_nonneg fits.duplicateOrders.1
    orderErrors := by
      rw [Orders.classify_eq]
      exact fun _ => rejected_errors_of_passing
        (orders_pass landedCustomers landedProducts landedOrders)
    lateOrders := by
      rw [SilverJob.valid, List.countP_map]
      exact (congrArg Nat.cast late).trans (Int.toNat_of_nonneg fits.lateOrders.1)
    invalidPayments := by
      rw [invalid]
      exact Int.toNat_of_nonneg fits.invalidPayments.1
    paymentErrors := by
      intro entry member
      obtain ⟨isEntry, hasError⟩ := List.mem_filter.mp member
      have errors := errors_payment landedPayments isEntry
      split at errors
      · exact errors
      · rw [errors] at hasError
        exact absurd hasError (by decide)
    nullCustomerEmails := by
      rw [← keptCustomers.countP_eq, List.countP_map] at emails
      rw [SilverJob.valid, List.countP_map]
      exact (congrArg Nat.cast emails).trans (Int.toNat_of_nonneg fits.nullCustomerEmails.1)
    customerErrors := noCustomerErrors
    productErrors := products_accepted landedProducts }

theorem sample_landed {Columns : Type} (records : List Columns) :
    Landed "b1" 0 records (records.map sampleRow) := by
  have all : ofBatch "b1" (records.map sampleRow) = records.map sampleRow := by
    unfold ofBatch
    apply List.filter_eq_self.mpr
    intro row member
    obtain ⟨columns, _, rfl⟩ := List.mem_map.mp member
    rfl
  constructor
  · rw [all, List.map_map]
    exact List.Perm.of_eq (List.map_id records)
  · intro row member
    rw [all] at member
    obtain ⟨columns, _, rfl⟩ := List.mem_map.mp member
    rfl

/-- Four orders, of which one is late and one repeated, for two customers. -/
def sampleConfig : CommerceFixtureConfig where
  customers := 2
  products := 1
  orders := 4
  nullCustomerEmails := 1
  duplicateOrders := 1
  lateOrders := 1
  invalidPayments := 2
  batchAt := .aware (some 0)

def sampleDraw : Draw sampleConfig where
  productIndex := 0
  productInRange := by decide
  quantity := 5
  quantityInRange := by decide
  customerIndex := 2
  customerInRange := by decide

theorem sample_quality_cases :
    Exists fun tables => writeTables sampleConfig 0 (fun _ => sampleDraw) = .ok tables ∧
      QualityCases sampleConfig "b1" (tables.customers.map sampleRow)
        (tables.products.map sampleRow) (tables.orders.map sampleRow)
        (tables.payments.map sampleRow) := by
  obtain ⟨tables, written, cases⟩ := (generated_quality_cases rfl rfl (by decide) 0
    fun _ => sampleDraw : Exists fun tables => writeTables sampleConfig 0 (fun _ => sampleDraw) =
      .ok tables ∧ _)
  exact ⟨tables, written, cases "b1" _ _ _ _ (sample_landed _) (sample_landed _)
    (sample_landed _) (sample_landed _)⟩

end CommerceFixtureCases
end Spark
end LakehouseOps
