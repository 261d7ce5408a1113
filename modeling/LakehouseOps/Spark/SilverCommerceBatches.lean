import Std.Data.String.ToInt
import LakehouseOps.Library.Pattern
import LakehouseOps.Spark.SilverCommerce

/-!
# Silver partitions a bronze batch

Each job puts every row of a batch into the silver table or into the rejects, adds nothing
else, and adds nothing when it runs again. What the jobs have in common is that they
classify every row once and accept at most one row of a key, which is never null.
-/

namespace LakehouseOps
namespace Spark
namespace SilverCommerce

open Library Library.Table

variable {Columns SilverColumns RejectColumns : Type}

/-! ## Reject ids -/

theorem colon_notMem_toDigits (number : Nat) : ':' ∉ Nat.toDigits 10 number := by
  intro member
  exact absurd (Nat.isDigit_of_mem_toDigits (by decide) (by decide) member) (by decide)

theorem colon_notMem_int (number : Int) : ':' ∉ (toString number).toList := by
  cases number with
  | ofNat number =>
      change ':' ∉ (Nat.repr number).toList
      rw [Nat.toList_repr]
      exact colon_notMem_toDigits number
  | negSucc number =>
      change ':' ∉ ("-" ++ Nat.repr (number + 1)).toList
      rw [String.toList_append, List.mem_append, Nat.toList_repr]
      exact not_or.mpr ⟨by decide, colon_notMem_toDigits _⟩

theorem Digest.colon_notMem (digest : Digest) : ':' ∉ digest.text.toList := by
  intro member
  exact absurd (List.all_eq_true.mp digest.hex ':' member) (by decide)

theorem toList_rejectText (batchId : String) (hash : Digest) (occurrence : Int) :
    (rejectText batchId hash occurrence).toList =
      batchId.toList ++ ':' :: (hash.text.toList ++ ':' :: (toString occurrence).toList) := by
  simp [rejectText]

/-- The text of a reject tells its batch, its hash and its occurrence. -/
theorem rejectText_inj
    {leftBatch rightBatch : String}
    {leftHash rightHash : Digest}
    {leftOccurrence rightOccurrence : Int}
    (same : rejectText leftBatch leftHash leftOccurrence =
      rejectText rightBatch rightHash rightOccurrence) :
    leftBatch = rightBatch ∧ leftHash = rightHash ∧ leftOccurrence = rightOccurrence := by
  have texts := congrArg (fun text => text.toList.reverse) same
  simp only [toList_rejectText, List.reverse_append, List.reverse_cons, List.append_assoc,
    List.singleton_append] at texts
  obtain ⟨occurrences, rest⟩ := Pattern.eq_of_append_separator
    (mt List.mem_reverse.mp (colon_notMem_int _)) (mt List.mem_reverse.mp (colon_notMem_int _))
    texts
  obtain ⟨hashes, batches⟩ := Pattern.eq_of_append_separator
    (mt List.mem_reverse.mp leftHash.colon_notMem)
    (mt List.mem_reverse.mp rightHash.colon_notMem) rest
  refine ⟨String.toList_inj.mp (List.reverse_injective batches),
    Digest.text_injective (String.toList_inj.mp (List.reverse_injective hashes)), ?_⟩
  exact Int.repr_inj.mp (String.toList_inj.mp (List.reverse_injective occurrences))

/-! ## What the jobs have in common -/

/-- A job classifies every row once, and accepts at most one row of a key, never null. -/
structure SilverJob.Lawful (job : SilverJob Columns SilverColumns RejectColumns) : Prop where
  keepsRows : forall source, ((job.classify source).map Classified.row).Perm source
  keysDistinct : forall source, ((accepted (job.classify source)).map fun entry =>
    job.mergeKey (job.silverColumns entry.row)).Nodup
  keysPresent : forall source entry, entry ∈ accepted (job.classify source) ->
    (job.mergeKey (job.silverColumns entry.row)).isSome = true

theorem blank_none : SilverWeather.blank none = true := rfl

/-- A key that a rule wants not blank is there. -/
theorem isSome_of_not_blank {value : Option String} (notBlank : SilverWeather.blank value = false) :
    value.isSome = true := by
  cases value with
  | none => exact absurd blank_none (Bool.eq_false_iff.mp notBlank)
  | some text => rfl

/-- The first rows of the keys are lawful where a rule wants the key not blank. -/
theorem lawful_classifyRanked
    {Rank : Type}
    [LinearOrder Rank]
    {job : SilverJob Columns SilverColumns RejectColumns}
    {key : BronzeRow Columns -> Option String}
    {order : BronzeRow Columns -> Rank}
    {rules : BronzeRow Columns -> List (Bool × String)}
    {duplicate missing : String}
    (classifies : forall source,
      job.classify source = classifyRanked key order rules duplicate source)
    (isKey : forall row, job.mergeKey (job.silverColumns row) = key row)
    (required : forall row, (SilverWeather.blank (key row), missing) ∈ rules row) :
    job.Lawful where
  keepsRows source := by
    rw [classifies]
    exact classifyRanked_perm
  keysDistinct source := by
    rw [classifies]
    simp only [isKey]
    exact nodup_accepted
  keysPresent source entry member := by
    rw [classifies] at member
    have passes := (mem_accepted_iff.mp (List.mem_map_of_mem member)).2
    rw [isKey]
    exact isSome_of_not_blank (triggered_eq_nil_iff.mp passes _ (required entry.row))

theorem Customers.lawful : Customers.job.Lawful :=
  lawful_classifyRanked (fun _ => rfl) (fun _ => rfl) fun _ => List.mem_cons_self

theorem Products.lawful : Products.job.Lawful :=
  lawful_classifyRanked (fun _ => rfl) (fun _ => rfl) fun _ => List.mem_cons_self

/-! ## References of orders -/

namespace Orders

/-- An id that is there and among the known ones. -/
def found (known : List (Option String)) (id : Option String) : Option String :=
  if id.isSome ∧ id ∈ known then id else none

theorem filter_known (known : List (Option String)) (id : Option String) :
    known.dedup.filter (fun other => sqlEq id other) =
      (if id.isSome ∧ id ∈ known then some id else none).toList := by
  have distinct : (known.dedup.map fun other : Option String => other).Nodup := by
    rw [List.map_id']
    exact List.nodup_dedup known
  cases id with
  | none => simp [sqlEq]
  | some id =>
      by_cases isKnown : some id ∈ known
      · have one := rowsOf_eq_singleton distinct (List.mem_dedup.mpr isKnown)
        rw [if_pos ⟨rfl, isKnown⟩, Option.toList_some, ← one]
        refine List.filter_congr fun other _ => ?_
        simp [sqlEq, eq_comm]
      · rw [if_neg (fun both => isKnown both.2), Option.toList_none, List.filter_eq_nil_iff]
        intro other member
        simp only [sqlEq, Option.isSome_some, Bool.true_and, decide_eq_true_eq]
        rintro rfl
        exact isKnown (List.mem_dedup.mp member)

/-- A reference never multiplies an order. -/
theorem enriched_eq (customers products : List (Option String))
    (source : List (BronzeRow OrderColumns)) :
    enriched customers.dedup products.dedup source =
      (rowNumbered businessKey orderOrder source).map fun ranked =>
        { row := ranked.1
          orderRank := ranked.2
          knownCustomerId := found customers ranked.1.columns.customerId
          knownProductId := found products ranked.1.columns.productId } := by
  unfold enriched
  simp only
  rw [leftJoin_eq_map fun (order : BronzeRow OrderColumns × Nat) _ =>
      filter_known customers order.1.columns.customerId,
    leftJoin_eq_map fun (order : (BronzeRow OrderColumns × Nat) × Option (Option String)) _ =>
      filter_known products order.1.1.columns.productId,
    List.map_map, List.map_map]
  refine List.map_congr_left fun ranked _ => ?_
  have join : forall known id, (if id.isSome ∧ id ∈ known then some id else none).join =
      found known id := by
    intro known id
    unfold found
    split <;> rfl
  simp only [Function.comp_apply, join]

/-- The ids of a batch. -/
def batchIds
    (id : BronzeRow Columns -> Option String)
    (batchId : String)
    (bronzeTable : List (BronzeRow Columns)) : List (Option String) :=
  (ofBatch batchId bronzeTable).map id

/-- The rules with the references of the batch. -/
def referenceRules
    (customerTable : List (BronzeRow Customers.CustomerColumns))
    (productTable : List (BronzeRow Products.ProductColumns))
    (batchId : String)
    (row : BronzeRow OrderColumns) : List (Bool × String) :=
  rules (found (batchIds Customers.businessKey batchId customerTable) row.columns.customerId)
    (found (batchIds Products.businessKey batchId productTable) row.columns.productId) row

theorem classify_eq
    (customerTable : List (BronzeRow Customers.CustomerColumns))
    (productTable : List (BronzeRow Products.ProductColumns))
    (batchId : String)
    (source : List (BronzeRow OrderColumns)) :
    classify customerTable productTable batchId source =
      classifyRanked businessKey orderOrder
        (referenceRules customerTable productTable batchId) "duplicate_order_id" source := by
  unfold classify knownIds
  simp only
  rw [enriched_eq, List.map_map]
  rfl

theorem lawful
    (customerTable : List (BronzeRow Customers.CustomerColumns))
    (productTable : List (BronzeRow Products.ProductColumns))
    (batchId : String) :
    (job customerTable productTable batchId).Lawful :=
  lawful_classifyRanked (classify_eq customerTable productTable batchId) (fun _ => rfl)
    fun _ => List.mem_cons_self

end Orders

namespace Payments

theorem classify_perm (source : List (BronzeRow PaymentColumns)) :
    ((classify source).map Classified.row).Perm source := by
  unfold classify
  rw [List.map_map]
  exact (List.map_id source).symm ▸ List.Perm.refl _

/-- An accepted payment breaks no rule and is the only one with its id. -/
theorem accepted_of_mem
    {source : List (BronzeRow PaymentColumns)}
    {entry : ClassifiedRow PaymentColumns}
    (member : entry ∈ accepted (classify source)) :
    Passing rules entry.row ∧
      (rowsOf businessKey (businessKey entry.row) source).length ≤ 1 := by
  unfold accepted classify at member
  obtain ⟨isEntry, noErrors⟩ := List.mem_filter.mp member
  obtain ⟨row, _, rfl⟩ := List.mem_map.mp isEntry
  rw [decide_eq_true_eq, List.length_eq_zero_iff, triggered_append,
    List.append_eq_nil_iff] at noErrors
  refine ⟨noErrors.1, ?_⟩
  have once := triggered_eq_nil_iff.mp noErrors.2 _ List.mem_cons_self
  rw [decide_eq_false_iff_not] at once
  exact Nat.le_of_not_lt once

theorem lawful : job.Lawful where
  keepsRows := classify_perm
  keysDistinct source := by
    change ((accepted (classify source)).map fun entry => businessKey entry.row).Nodup
    rw [← groupsWhere_repeated_eq_nil_iff, groupsWhere_eq_nil_iff]
    intro entry member
    have once := (accepted_of_mem member).2
    have fewer : ((rowsOf (fun entry => businessKey entry.row) (businessKey entry.row)
        (accepted (classify source))).map Classified.row).length ≤
        (rowsOf businessKey (businessKey entry.row) source).length := by
      have keyed : rowsOf businessKey (businessKey entry.row)
          ((accepted (classify source)).map Classified.row) =
          (rowsOf (fun entry => businessKey entry.row) (businessKey entry.row)
            (accepted (classify source))).map Classified.row :=
        rowsOf_map (fun _ => rfl) _ _
      rw [← keyed]
      refine ((List.Sublist.filter _ (List.filter_sublist.map _)).length_le).trans ?_
      exact ((classify_perm source).filter _).length_eq.le
    rw [List.length_map] at fewer
    rw [decide_eq_false_iff_not, Nat.not_lt]
    exact fewer.trans once
  keysPresent source entry member := by
    have passes := (accepted_of_mem member).1
    exact isSome_of_not_blank (triggered_eq_nil_iff.mp passes _ List.mem_cons_self)

end Payments

/-! ## The run of a job -/

section Run

variable {job : SilverJob Columns SilverColumns RejectColumns} {sha2 : String -> Digest}
  {batchId : String} {bronze bronzeTable : List (BronzeRow Columns)}

/-- Both merges. -/
def SilverJob.merged (job : SilverJob Columns SilverColumns RejectColumns)
    (sha2 : String -> Digest)
    (bronze : List (BronzeRow Columns))
    (tables : SilverTables SilverColumns RejectColumns) :
    SilverTables SilverColumns RejectColumns where
  silver := mergeInsert job.sameKey tables.silver (job.valid (job.classify bronze))
  rejects := mergeInsert sameReject tables.rejects (job.rejects sha2 (job.classify bronze))

theorem SilverJob.Lawful.length_classify
    (lawful : job.Lawful)
    (bronze : List (BronzeRow Columns)) :
    (job.classify bronze).length = bronze.length := by
  rw [← (lawful.keepsRows bronze).length_eq, List.length_map]

theorem SilverJob.counts (job : SilverJob Columns SilverColumns RejectColumns)
    (sha2 : String -> Digest)
    (classified : List (ClassifiedRow Columns)) :
    (job.valid classified).length + (job.rejects sha2 classified).length =
      classified.length := by
  have whole := (accepted_append_rejected_perm classified).length_eq
  rw [List.length_append] at whole
  rwa [SilverJob.valid, SilverJob.rejects, List.length_map, List.length_map]

/-- A job over a batch with rows returns exactly when the merges leave as many rows of the
batch as it has classified. -/
theorem writeSelectedBatch_returns_iff
    (lawful : job.Lawful)
    {before after : SilverTables SilverColumns RejectColumns}
    {report : SilverReport} :
    (writeSelectedBatch job sha2 bronzeTable batchId).Returns before report after ↔
      ofBatch batchId bronzeTable ≠ [] ∧
        after = job.merged sha2 (ofBatch batchId bronzeTable) before ∧
        (silverOfBatch batchId after.silver).length =
          (job.valid (job.classify (ofBatch batchId bronzeTable))).length ∧
        (rejectsOfBatch batchId after.rejects).length =
          (job.rejects sha2 (job.classify (ofBatch batchId bronzeTable))).length ∧
        report = job.report batchId (ofBatch batchId bronzeTable).length
          (job.valid (job.classify (ofBatch batchId bronzeTable)))
          (job.rejects sha2 (job.classify (ofBatch batchId bronzeTable))) before after := by
  have length := lawful.length_classify (ofBatch batchId bronzeTable)
  have counts := job.counts sha2 (job.classify (ofBatch batchId bronzeTable))
  unfold writeSelectedBatch
  simp only [counts, length, Job.returns_bind_iff, Job.returns_reject_iff, Job.returns_read_iff,
    Job.returns_commit_iff, Job.returns_pure_iff]
  constructor
  · rintro ⟨_, _, ⟨present, rfl⟩, _, _, ⟨_, rfl⟩, _, _, ⟨rfl, rfl⟩, _, _, rfl, _, _, rfl, _, _,
      ⟨rfl, rfl⟩, _, _, ⟨post, rfl⟩, rfl, rfl⟩
    rw [not_not] at post
    exact ⟨mt List.length_eq_zero_iff.mpr present, rfl, post.1, post.2, rfl⟩
  · rintro ⟨present, rfl, silverRows, rejectRows, rfl⟩
    exact ⟨(), _, ⟨mt List.length_eq_zero_iff.mp present, rfl⟩, (), _, ⟨not_not.mpr rfl, rfl⟩, _, _,
      ⟨rfl, rfl⟩, (), _, rfl, (), _, rfl, _, _, ⟨rfl, rfl⟩, (), _,
      ⟨not_not.mpr ⟨silverRows, rejectRows⟩, rfl⟩, rfl, rfl⟩

/-- The batch has rows, no two of them with one hash and occurrence, and neither table has
rows of it. The ids of the other rejects are those that the job gives. -/
structure FreshBatch
    (sha2 : String -> Digest)
    (bronzeTable : List (BronzeRow Columns))
    (batchId : String)
    (before : SilverTables SilverColumns RejectColumns) : Prop where
  present : ofBatch batchId bronzeTable ≠ []
  unique : ((ofBatch batchId bronzeTable).map fun row =>
    (row.sourceRowHash, row.sourceRowOccurrence)).Nodup
  noSilver : silverOfBatch batchId before.silver = []
  noRejects : rejectsOfBatch batchId before.rejects = []
  ownIds : forall reject, reject ∈ before.rejects -> reject.rejectId =
    sha2 (rejectText reject.sourceBatchId reject.sourceRowHash reject.sourceRowOccurrence)

/-- What the job makes of the rows of a batch: each is in one of the two tables, and what
other batches have there is as it was. -/
structure Partitions
    (job : SilverJob Columns SilverColumns RejectColumns)
    (sha2 : String -> Digest)
    (batchId : String)
    (bronze : List (BronzeRow Columns))
    (before after : SilverTables SilverColumns RejectColumns) : Prop where
  placed : Exists fun toSilver : List (ClassifiedRow Columns) =>
    Exists fun toRejects : List (ClassifiedRow Columns) =>
      ((toSilver ++ toRejects).map Classified.row).Perm bronze ∧
        (forall entry, entry ∈ toSilver -> entry.errors = []) ∧
        (forall entry, entry ∈ toRejects -> entry.errors ≠ []) ∧
        silverOfBatch batchId after.silver =
          (toSilver.map fun entry => job.silverRow entry.row) ∧
        rejectsOfBatch batchId after.rejects = toRejects.map (job.rejectRow sha2)
  keys : ((silverOfBatch batchId after.silver).map fun row => job.mergeKey row.columns).Nodup
  rejectIds : ((rejectsOfBatch batchId after.rejects).map RejectRow.rejectId).Nodup
  counts : (silverOfBatch batchId after.silver).length +
    (rejectsOfBatch batchId after.rejects).length = bronze.length
  otherSilver : (after.silver.filter fun row => row.sourceBatchId ≠ batchId) =
    before.silver.filter fun row => row.sourceBatchId ≠ batchId
  otherRejects : (after.rejects.filter fun row => row.sourceBatchId ≠ batchId) =
    before.rejects.filter fun row => row.sourceBatchId ≠ batchId

theorem mem_ofBatch {row : BronzeRow Columns} :
    row ∈ ofBatch batchId bronzeTable ↔ row ∈ bronzeTable ∧ row.batchId = batchId := by
  simp [ofBatch]

/-- A classified row of a batch is a row of the batch. -/
theorem SilverJob.Lawful.mem_classify
    (lawful : job.Lawful)
    {entry : ClassifiedRow Columns}
    (member : entry ∈ job.classify (ofBatch batchId bronzeTable)) :
    entry.row ∈ ofBatch batchId bronzeTable :=
  (lawful.keepsRows _).mem_iff.mp (List.mem_map_of_mem member)

theorem SilverJob.Lawful.valid_batchId
    (lawful : job.Lawful)
    {row : SilverRow SilverColumns}
    (member : row ∈ job.valid (job.classify (ofBatch batchId bronzeTable))) :
    row.sourceBatchId = batchId := by
  obtain ⟨entry, isAccepted, rfl⟩ := List.mem_map.mp member
  exact (mem_ofBatch.mp (lawful.mem_classify (List.mem_filter.mp isAccepted).1)).2

theorem SilverJob.Lawful.rejects_batchId
    (lawful : job.Lawful)
    {row : RejectRow RejectColumns}
    (member : row ∈ job.rejects sha2 (job.classify (ofBatch batchId bronzeTable))) :
    row.sourceBatchId = batchId := by
  obtain ⟨entry, isRejected, rfl⟩ := List.mem_map.mp member
  exact (mem_ofBatch.mp (lawful.mem_classify (List.mem_filter.mp isRejected).1)).2

theorem rejects_ownIds
    {classified : List (ClassifiedRow Columns)}
    {row : RejectRow RejectColumns}
    (member : row ∈ job.rejects sha2 classified) :
    row.rejectId =
      sha2 (rejectText row.sourceBatchId row.sourceRowHash row.sourceRowOccurrence) := by
  obtain ⟨entry, _, rfl⟩ := List.mem_map.mp member
  rfl

variable {before : SilverTables SilverColumns RejectColumns}

/-- Nothing of a fresh batch matches a row of the tables. -/
theorem merged_fresh
    (lawful : job.Lawful)
    (injective : Function.Injective sha2)
    (fresh : FreshBatch sha2 bronzeTable batchId before) :
    job.merged sha2 (ofBatch batchId bronzeTable) before =
      { silver := before.silver ++ job.valid (job.classify (ofBatch batchId bronzeTable))
        rejects := before.rejects ++
          job.rejects sha2 (job.classify (ofBatch batchId bronzeTable)) } := by
  have otherSilver := List.filter_eq_nil_iff.mp fresh.noSilver
  have otherRejects := List.filter_eq_nil_iff.mp fresh.noRejects
  unfold SilverJob.merged
  rw [mergeInsert_of_absent, mergeInsert_of_absent]
  · intro other isNew row isOld
    have apart := otherRejects row isOld
    rw [decide_eq_true_eq] at apart
    refine decide_eq_false fun same => apart ?_
    rw [fresh.ownIds row isOld, rejects_ownIds isNew] at same
    rw [(rejectText_inj (injective same)).1]
    exact lawful.rejects_batchId isNew
  · intro other isNew row isOld
    have apart := otherSilver row isOld
    rw [decide_eq_true_eq] at apart
    have differ : ¬row.sourceBatchId = other.sourceBatchId := by
      rw [lawful.valid_batchId isNew]
      exact apart
    rw [SilverJob.sameKey, decide_eq_false differ, Bool.false_and]

theorem silverOfBatch_append
    {old new : List (SilverRow SilverColumns)}
    (noOld : silverOfBatch batchId old = [])
    (allNew : forall row, row ∈ new -> row.sourceBatchId = batchId) :
    silverOfBatch batchId (old ++ new) = new := by
  unfold silverOfBatch at noOld ⊢
  rw [List.filter_append, noOld, List.nil_append]
  exact List.filter_eq_self.mpr fun row member => decide_eq_true (allNew row member)

theorem rejectsOfBatch_append
    {old new : List (RejectRow RejectColumns)}
    (noOld : rejectsOfBatch batchId old = [])
    (allNew : forall row, row ∈ new -> row.sourceBatchId = batchId) :
    rejectsOfBatch batchId (old ++ new) = new := by
  unfold rejectsOfBatch at noOld ⊢
  rw [List.filter_append, noOld, List.nil_append]
  exact List.filter_eq_self.mpr fun row member => decide_eq_true (allNew row member)

theorem FreshBatch.silverRows
    (fresh : FreshBatch sha2 bronzeTable batchId before)
    (lawful : job.Lawful) :
    silverOfBatch batchId
        (before.silver ++ job.valid (job.classify (ofBatch batchId bronzeTable))) =
      job.valid (job.classify (ofBatch batchId bronzeTable)) :=
  silverOfBatch_append fresh.noSilver fun _ => lawful.valid_batchId

theorem FreshBatch.rejectRows
    (fresh : FreshBatch sha2 bronzeTable batchId before)
    (lawful : job.Lawful) :
    rejectsOfBatch batchId
        (before.rejects ++ job.rejects sha2 (job.classify (ofBatch batchId bronzeTable))) =
      job.rejects sha2 (job.classify (ofBatch batchId bronzeTable)) :=
  rejectsOfBatch_append fresh.noRejects fun _ => lawful.rejects_batchId

/-- Rejects of different rows have different ids. -/
theorem nodup_rejectIds
    (lawful : job.Lawful)
    (injective : Function.Injective sha2)
    (fresh : FreshBatch sha2 bronzeTable batchId before) :
    ((job.rejects sha2 (job.classify (ofBatch batchId bronzeTable))).map
      RejectRow.rejectId).Nodup := by
  have rows : ((job.classify (ofBatch batchId bronzeTable)).map fun entry =>
      (entry.row.sourceRowHash, entry.row.sourceRowOccurrence)).Nodup := by
    have perm := (lawful.keepsRows (ofBatch batchId bronzeTable)).map fun row =>
      (row.sourceRowHash, row.sourceRowOccurrence)
    rw [List.map_map] at perm
    exact perm.nodup_iff.mpr fresh.unique
  have rejectedRows := rows.sublist ((List.filter_sublist (p := fun entry =>
    decide (0 < entry.errors.length))).map _)
  unfold SilverJob.rejects rejected
  rw [List.map_map, List.Nodup, List.pairwise_map]
  rw [List.Nodup, List.pairwise_map] at rejectedRows
  refine rejectedRows.imp fun apart same => apart ?_
  obtain ⟨_, hashes, occurrences⟩ := rejectText_inj (injective same)
  rw [hashes, occurrences]

/-- A job over a fresh batch partitions it. -/
theorem partitions_fresh
    (lawful : job.Lawful)
    (injective : Function.Injective sha2)
    (fresh : FreshBatch sha2 bronzeTable batchId before) :
    Partitions job sha2 batchId (ofBatch batchId bronzeTable) before
      (job.merged sha2 (ofBatch batchId bronzeTable) before) := by
  have silverRows := fresh.silverRows lawful
  have rejectRows := fresh.rejectRows lawful
  rw [merged_fresh lawful injective fresh]
  refine ⟨⟨accepted (job.classify (ofBatch batchId bronzeTable)),
    rejected (job.classify (ofBatch batchId bronzeTable)), ?_, ?_, ?_, silverRows, rejectRows⟩,
    ?_, ?_, ?_, ?_, ?_⟩
  · exact ((accepted_append_rejected_perm _).map _).trans (lawful.keepsRows _)
  · intro entry member
    exact List.length_eq_zero_iff.mp (of_decide_eq_true (List.mem_filter.mp member).2)
  · intro entry member
    exact List.ne_nil_of_length_pos (of_decide_eq_true (List.mem_filter.mp member).2)
  · rw [silverRows, SilverJob.valid, List.map_map]
    exact lawful.keysDistinct _
  · rw [rejectRows]
    exact nodup_rejectIds lawful injective fresh
  · rw [silverRows, rejectRows, job.counts, lawful.length_classify]
  · rw [List.filter_append, List.append_right_eq_self, List.filter_eq_nil_iff]
    intro row member
    simpa using lawful.valid_batchId member
  · rw [List.filter_append, List.append_right_eq_self, List.filter_eq_nil_iff]
    intro row member
    simpa using lawful.rejects_batchId member

/-- Merging the rows of a batch once more changes nothing. -/
theorem merged_again
    (lawful : job.Lawful)
    (injective : Function.Injective sha2)
    (fresh : FreshBatch sha2 bronzeTable batchId before) :
    job.merged sha2 (ofBatch batchId bronzeTable)
        (job.merged sha2 (ofBatch batchId bronzeTable) before) =
      job.merged sha2 (ofBatch batchId bronzeTable) before := by
  rw [merged_fresh lawful injective fresh]
  unfold SilverJob.merged
  rw [mergeInsert_of_present, mergeInsert_of_present]
  · intro other member
    exact ⟨other, List.mem_append_right _ member, decide_eq_true rfl⟩
  · intro other member
    refine ⟨other, List.mem_append_right _ member, ?_⟩
    obtain ⟨entry, isAccepted, rfl⟩ := List.mem_map.mp member
    have isKey := lawful.keysPresent _ entry isAccepted
    simp only [SilverJob.sameKey, sqlEq, decide_true, Bool.true_and, Bool.and_true]
    exact isKey

/-- What processing a fresh batch does: the job returns, it has partitioned the batch, the
counts of its report agree, and it changes nothing when it runs again. -/
def Processes
    (job : SilverJob Columns SilverColumns RejectColumns)
    (sha2 : String -> Digest)
    (bronzeTable : List (BronzeRow Columns))
    (batchId : String)
    (before : SilverTables SilverColumns RejectColumns) : Prop :=
  Exists fun report : SilverReport => Exists fun after =>
    (writeSelectedBatch job sha2 bronzeTable batchId).Returns before report after ∧
      Partitions job sha2 batchId (ofBatch batchId bronzeTable) before after ∧
      report.bronzeRows = (ofBatch batchId bronzeTable).length ∧
      report.validRows + report.rejectedRows = report.bronzeRows ∧
      report.silverBatchRows = report.validRows ∧
      report.rejectBatchRows = report.rejectedRows ∧
      Exists fun again : SilverReport =>
        (writeSelectedBatch job sha2 bronzeTable batchId).Returns after again after

/-- The merges of a fresh batch leave as many rows of it as the job has classified. -/
theorem FreshBatch.lengths
    (fresh : FreshBatch sha2 bronzeTable batchId before)
    (lawful : job.Lawful)
    (injective : Function.Injective sha2) :
    (silverOfBatch batchId
        (job.merged sha2 (ofBatch batchId bronzeTable) before).silver).length =
        (job.valid (job.classify (ofBatch batchId bronzeTable))).length ∧
      (rejectsOfBatch batchId
        (job.merged sha2 (ofBatch batchId bronzeTable) before).rejects).length =
        (job.rejects sha2 (job.classify (ofBatch batchId bronzeTable))).length := by
  have merged := merged_fresh lawful injective fresh
  constructor
  · rw [merged, fresh.silverRows lawful]
  · rw [merged, fresh.rejectRows lawful]

theorem processes_fresh
    (lawful : job.Lawful)
    (injective : Function.Injective sha2)
    (fresh : FreshBatch sha2 bronzeTable batchId before) :
    Processes job sha2 bronzeTable batchId before := by
  obtain ⟨silverLength, rejectsLength⟩ := fresh.lengths lawful injective
  refine ⟨_, _, (writeSelectedBatch_returns_iff lawful).mpr
    ⟨fresh.present, rfl, silverLength, rejectsLength, rfl⟩,
    partitions_fresh lawful injective fresh, rfl, ?_, silverLength, rejectsLength, _,
    (writeSelectedBatch_returns_iff lawful).mpr ⟨fresh.present,
      (merged_again lawful injective fresh).symm, silverLength, rejectsLength, rfl⟩⟩
  exact (job.counts sha2 _).trans (lawful.length_classify _)

/-- The tables are those of a returned run on tables without rows of the batch, or of a
returned run after such runs. -/
inductive Produced
    (job : SilverJob Columns SilverColumns RejectColumns)
    (sha2 : String -> Digest)
    (bronzeTable : List (BronzeRow Columns))
    (batchId : String) : SilverTables SilverColumns RejectColumns -> Prop
  | first
      {before after : SilverTables SilverColumns RejectColumns}
      {report : SilverReport}
      (noSilver : silverOfBatch batchId before.silver = [])
      (noRejects : rejectsOfBatch batchId before.rejects = [])
      (returned : (writeSelectedBatch job sha2 bronzeTable batchId).Returns before report after) :
      Produced job sha2 bronzeTable batchId after
  | again
      {before after : SilverTables SilverColumns RejectColumns}
      {report : SilverReport}
      (produced : Produced job sha2 bronzeTable batchId before)
      (returned : (writeSelectedBatch job sha2 bronzeTable batchId).Returns before report after) :
      Produced job sha2 bronzeTable batchId after

theorem produced_fresh
    (lawful : job.Lawful)
    (injective : Function.Injective sha2)
    (fresh : FreshBatch sha2 bronzeTable batchId before) :
    Produced job sha2 bronzeTable batchId
      (job.merged sha2 (ofBatch batchId bronzeTable) before) := by
  obtain ⟨silverLength, rejectsLength⟩ := fresh.lengths lawful injective
  exact .first fresh.noSilver fresh.noRejects ((writeSelectedBatch_returns_iff lawful).mpr
    ⟨fresh.present, rfl, silverLength, rejectsLength, rfl⟩)

/-- Of as many rows as there were, a filter has dropped none. -/
theorem filter_eq_of_length
    {Row : Type}
    {condition : Row -> Bool}
    {rows : List Row}
    (same : (rows.filter condition).length = rows.length) :
    rows.filter condition = rows :=
  List.filter_sublist.eq_of_length same

/-- The produced tables have the classified rows of the batch. -/
theorem Produced.rows
    (lawful : job.Lawful)
    {tables : SilverTables SilverColumns RejectColumns}
    (produced : Produced job sha2 bronzeTable batchId tables) :
    silverOfBatch batchId tables.silver = job.valid (job.classify (ofBatch batchId bronzeTable)) ∧
      rejectsOfBatch batchId tables.rejects =
        job.rejects sha2 (job.classify (ofBatch batchId bronzeTable)) := by
  induction produced with
  | first noSilver noRejects returned =>
      obtain ⟨_, rfl, silverRows, rejectRows, _⟩ := (writeSelectedBatch_returns_iff lawful).mp returned
      unfold SilverJob.merged mergeInsert at silverRows rejectRows ⊢
      dsimp only at silverRows rejectRows ⊢
      rw [silverOfBatch_append noSilver fun row member =>
        lawful.valid_batchId (List.mem_filter.mp member).1] at silverRows ⊢
      rw [rejectsOfBatch_append noRejects fun row member =>
        lawful.rejects_batchId (List.mem_filter.mp member).1] at rejectRows ⊢
      exact ⟨filter_eq_of_length silverRows, filter_eq_of_length rejectRows⟩
  | again produced returned inductionHypothesis =>
      obtain ⟨_, rfl, _, _, _⟩ := (writeSelectedBatch_returns_iff lawful).mp returned
      obtain ⟨silverRows, rejectRows⟩ := inductionHypothesis
      unfold SilverJob.merged
      rw [mergeInsert_of_present, mergeInsert_of_present]
      · exact ⟨silverRows, rejectRows⟩
      · intro other member
        rw [← rejectRows] at member
        exact ⟨other, (List.mem_filter.mp member).1, decide_eq_true rfl⟩
      · intro other member
        have isPresent : (job.mergeKey other.columns).isSome = true := by
          obtain ⟨entry, isAccepted, rfl⟩ := List.mem_map.mp member
          exact lawful.keysPresent _ entry isAccepted
        rw [← silverRows] at member
        refine ⟨other, (List.mem_filter.mp member).1, ?_⟩
        simp only [SilverJob.sameKey, sqlEq, decide_true, Bool.true_and, Bool.and_true]
        exact isPresent

end Run

/-! A batch with one row in each table. -/

/-- The code points of a text as one number. -/
def sampleSha2 (text : String) : Digest where
  text := Nat.repr (Encodable.encode (text.toList.map Char.toNat))
  hex := by
    rw [List.all_eq_true, Nat.toList_repr]
    intro digit member
    rw [Nat.isDigit_of_mem_toDigits (by decide) (by decide) member, Bool.true_or]

theorem sampleSha2_injective : Function.Injective sampleSha2 := by
  intro left right same
  have texts := Encodable.encode_injective (Nat.repr_injective (congrArg Digest.text same))
  refine String.toList_inj.mp (List.map_injective_iff.mpr ?_ texts)
  exact fun first second codes => Char.toNat_inj.mp codes

def sampleRow {Columns : Type} (columns : Columns) : BronzeRow Columns where
  batchId := "b1"
  sourceBatchAt := some 0
  sourceRowHash := { text := "0a", hex := by decide }
  sourceRowOccurrence := 1
  columns

def sampleCustomers : List (BronzeRow Customers.CustomerColumns) :=
  [sampleRow
    { customerId := some "C1", fullName := some "Ada", email := none, registeredAt := some 0 }]

def sampleProducts : List (BronzeRow Products.ProductColumns) :=
  [sampleRow
    { productId := some "P1", name := some "Lamp", category := some "home",
      unitPriceCents := some 500 }]

def sampleOrders : List (BronzeRow Orders.OrderColumns) :=
  [sampleRow
    { orderId := some "O1", customerId := some "C1", productId := some "P1", quantity := some 2,
      unitPriceCents := some 500, totalCents := some 1000, eventAt := some 0,
      ingestedAt := some 0 }]

def samplePayments : List (BronzeRow Payments.PaymentColumns) :=
  [sampleRow
    { paymentId := some "PAY1", orderId := some "O1", amountCents := some 1000,
      status := some "captured", paidAt := some 0 }]

def noTables {SilverColumns RejectColumns : Type} : SilverTables SilverColumns RejectColumns where
  silver := []
  rejects := []

theorem sample_fresh {Columns SilverColumns RejectColumns : Type} (columns : Columns) :
    FreshBatch sampleSha2 [sampleRow columns] "b1"
      (noTables : SilverTables SilverColumns RejectColumns) where
  present := List.cons_ne_nil _ _
  unique := List.nodup_singleton _
  noSilver := rfl
  noRejects := rfl
  ownIds := fun _ none => absurd none List.not_mem_nil

end SilverCommerce
end Spark
end LakehouseOps
