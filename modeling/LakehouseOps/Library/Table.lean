import Mathlib.Data.List.Chain
import Mathlib.Data.List.Count
import Mathlib.Data.List.Dedup
import Mathlib.Data.List.Sort

/-!
# Relational operations on tables

A table is the list of its rows; two lists with the same rows in another order
are the same table. The operations follow their SQL meaning: joins fan out over
duplicates, a window function sees the ordered rows of one partition, and
`exceptAll` counts multiplicities.

The rows of one key are what most arguments need, so every operation comes with
the rule for the rows of one key.
-/

namespace LakehouseOps
namespace Library
namespace Table

variable {Row Other Key Time Out : Type*}

/-! ## Null comparisons -/

/-- The SQL comparison `left = right`: not true when either side is null. -/
def sqlEq [DecidableEq Key] (left right : Option Key) : Bool :=
  left.isSome && left = right

/-- The SQL comparison `left <> right`: not true when either side is null. -/
def sqlNe [DecidableEq Key] (left right : Option Key) : Bool :=
  left.isSome && right.isSome && left ≠ right

@[simp] theorem sqlNe_some_some [DecidableEq Key] (left right : Key) :
    sqlNe (some left) (some right) = decide (left ≠ right) := by
  simp [sqlNe]

@[simp] theorem sqlEq_some_some [DecidableEq Key] (left right : Key) :
    sqlEq (some left) (some right) = decide (left = right) := by
  simp [sqlEq]

/-! ## Rows of one key -/

/-- The rows of one key, in table order. -/
def rowsOf [DecidableEq Key] (key : Row -> Key) (value : Key) (rows : List Row) : List Row :=
  rows.filter fun row => key row = value

@[simp] theorem rowsOf_nil [DecidableEq Key] (key : Row -> Key) (value : Key) :
    rowsOf key value [] = [] := rfl

@[simp] theorem mem_rowsOf
    [DecidableEq Key]
    {key : Row -> Key}
    {value : Key}
    {rows : List Row}
    {row : Row} :
    row ∈ rowsOf key value rows ↔ row ∈ rows ∧ key row = value := by
  simp [rowsOf]

@[simp] theorem rowsOf_append
    [DecidableEq Key]
    (key : Row -> Key)
    (value : Key)
    (left right : List Row) :
    rowsOf key value (left ++ right) =
      rowsOf key value left ++ rowsOf key value right :=
  List.filter_append _ _

/-- Updating rows without changing their keys acts on the rows of each key. -/
theorem rowsOf_map
    [DecidableEq Key]
    {key : Row -> Key}
    {otherKey : Other -> Key}
    {update : Row -> Other}
    (keepsKey : forall row, otherKey (update row) = key row)
    (value : Key)
    (rows : List Row) :
    rowsOf otherKey value (rows.map update) = (rowsOf key value rows).map update := by
  unfold rowsOf
  rw [List.filter_map]
  congr 1
  apply List.filter_congr
  intro row _
  simp [keepsKey]

/-- Two tables are the same when they have the same rows for each key. -/
theorem perm_of_rowsOf
    [DecidableEq Key]
    (key : Row -> Key)
    {left right : List Row}
    (same : forall value, (rowsOf key value left).Perm (rowsOf key value right)) :
    left.Perm right := by
  classical
  rw [List.perm_iff_count]
  intro row
  have counts := (same (key row)).count_eq row
  unfold rowsOf at counts
  rwa [List.count_filter (by simp), List.count_filter (by simp)] at counts

/-- Without rows of a key there is none in the table. -/
theorem rowsOf_eq_nil_iff
    [DecidableEq Key]
    {key : Row -> Key}
    {value : Key}
    {rows : List Row} :
    rowsOf key value rows = [] ↔ forall row, row ∈ rows -> key row ≠ value := by
  simp [rowsOf, List.filter_eq_nil_iff]

/-- In a table with distinct keys a row is the only one of its key. -/
theorem rowsOf_eq_singleton
    [DecidableEq Key]
    {key : Row -> Key}
    {rows : List Row}
    (distinct : (rows.map key).Nodup)
    {row : Row}
    (member : row ∈ rows) :
    rowsOf key (key row) rows = [row] := by
  obtain ⟨before, after, rfl⟩ := List.append_of_mem member
  rw [List.map_append, List.map_cons, List.nodup_append] at distinct
  obtain ⟨_, tail, apart⟩ := distinct
  have beforeApart : rowsOf key (key row) before = [] := by
    apply rowsOf_eq_nil_iff.mpr
    intro other otherMember
    exact apart _ (List.mem_map_of_mem otherMember) _ List.mem_cons_self
  have afterApart : rowsOf key (key row) after = [] := by
    apply rowsOf_eq_nil_iff.mpr
    intro other otherMember same
    exact (List.nodup_cons.mp tail).1 (same ▸ List.mem_map_of_mem otherMember)
  rw [rowsOf_append, beforeApart, List.nil_append, rowsOf, List.filter_cons_of_pos (by simp)]
  exact congrArg (List.cons row) afterApart

/-! ## Grouping and windows -/

/-- The keys that occur in a table. -/
def keys [DecidableEq Key] (key : Row -> Key) (rows : List Row) : List Key :=
  (rows.map key).dedup

@[simp] theorem mem_keys
    [DecidableEq Key]
    {key : Row -> Key}
    {rows : List Row}
    {value : Key} :
    value ∈ keys key rows ↔ Exists fun row => row ∈ rows ∧ key row = value := by
  simp [keys]

/-- As many keys as rows: the keys are distinct. -/
theorem length_keys_eq_iff
    [DecidableEq Key]
    {key : Row -> Key}
    {rows : List Row} :
    (keys key rows).length = rows.length ↔ (rows.map key).Nodup := by
  rw [keys, show rows.length = (rows.map key).length from (List.length_map key).symm]
  constructor
  · intro same
    have whole := (List.dedup_sublist (rows.map key)).eq_of_length same
    exact whole ▸ List.nodup_dedup _
  · intro distinct
    rw [List.dedup_eq_self.mpr distinct]

/-- The keys whose group satisfies a condition: `groupBy(key).agg(..).filter(..)`. -/
def groupsWhere
    [DecidableEq Key]
    (key : Row -> Key)
    (condition : List Row -> Bool)
    (rows : List Row) : List Key :=
  (keys key rows).filter fun value => condition (rowsOf key value rows)

theorem groupsWhere_eq_nil_iff
    [DecidableEq Key]
    {key : Row -> Key}
    {condition : List Row -> Bool}
    {rows : List Row} :
    groupsWhere key condition rows = [] ↔
      forall row, row ∈ rows -> condition (rowsOf key (key row) rows) = false := by
  simp [groupsWhere, List.filter_eq_nil_iff]

/-- No key has more than one row: `groupBy(key).count().filter("count > 1")` is
empty exactly when the keys are distinct. -/
theorem groupsWhere_repeated_eq_nil_iff
    [DecidableEq Key]
    {key : Row -> Key}
    {rows : List Row} :
    groupsWhere key (fun group => 1 < group.length) rows = [] ↔
      (rows.map key).Nodup := by
  have counts : forall value,
      (rowsOf key value rows).length = (rows.map key).count value := by
    intro value
    rw [rowsOf, List.count, List.countP_map, List.countP_eq_length_filter]
    congr 1
  rw [groupsWhere_eq_nil_iff, List.nodup_iff_count_le_one]
  constructor
  · intro single value
    by_cases present : value ∈ rows.map key
    · obtain ⟨row, member, rfl⟩ := List.mem_map.mp present
      have atMost := single row member
      rw [decide_eq_false_iff_not, counts] at atMost
      omega
    · rw [List.count_eq_zero_of_not_mem present]
      omega
  · intro single row _
    have atMost := single (key row)
    rw [decide_eq_false_iff_not, counts]
    omega

/-- Stable ascending order by a time column. -/
def orderedBy [LinearOrder Time] (time : Row -> Time) (rows : List Row) : List Row :=
  rows.insertionSort fun left right => time left ≤ time right

theorem orderedBy_perm [LinearOrder Time] (time : Row -> Time) (rows : List Row) :
    (orderedBy time rows).Perm rows :=
  List.perm_insertionSort _ rows

theorem orderedBy_pairwise [LinearOrder Time] (time : Row -> Time) (rows : List Row) :
    (orderedBy time rows).Pairwise fun left right => time left ≤ time right := by
  have total : Std.Total fun left right : Row => time left ≤ time right :=
    ⟨fun left right => le_total (time left) (time right)⟩
  have transitive : IsTrans Row fun left right => time left ≤ time right :=
    ⟨fun _ _ _ => le_trans⟩
  exact List.pairwise_insertionSort _ rows

/-- Rows with distinct times are in strictly ascending order. -/
theorem orderedBy_strict
    [LinearOrder Time]
    {time : Row -> Time}
    {rows : List Row}
    (distinct : (rows.map time).Nodup) :
    (orderedBy time rows).Pairwise fun left right => time left < time right := by
  have apart : ((orderedBy time rows).map time).Nodup :=
    ((orderedBy_perm time rows).map time).nodup_iff.mpr distinct
  rw [List.Nodup, List.pairwise_map] at apart
  exact (apart.and (orderedBy_pairwise time rows)).imp fun both =>
    lt_of_le_of_ne both.2 both.1

/-- Rows with distinct times have one ascending order. -/
theorem orderedBy_eq_of_perm
    [LinearOrder Time]
    {time : Row -> Time}
    {rows ascending : List Row}
    (perm : ascending.Perm rows)
    (strict : ascending.Pairwise fun left right => time left < time right) :
    orderedBy time rows = ascending := by
  have samePerm : (orderedBy time rows).Perm ascending :=
    (orderedBy_perm time rows).trans perm.symm
  have distinct : (ascending.map time).Nodup := by
    rw [List.Nodup, List.pairwise_map]
    exact strict.imp fun before => ne_of_lt before
  have ascendingPairwise :
      ascending.Pairwise fun left right => time left ≤ time right :=
    strict.imp fun before => le_of_lt before
  refine samePerm.eq_of_pairwise ?_ (orderedBy_pairwise time rows) ascendingPairwise
  intro left right leftMember rightMember le ge
  exact List.inj_on_of_nodup_map distinct (samePerm.mem_iff.mp leftMember)
    rightMember (le_antisymm le ge)

/-- A window function over the partitions of a table, each ordered by time. -/
def windowOver
    [DecidableEq Key]
    [LinearOrder Time]
    (key : Row -> Key)
    (time : Row -> Time)
    (window : List Row -> List Out)
    (rows : List Row) : List Out :=
  (keys key rows).flatMap fun value =>
    window (orderedBy time (rowsOf key value rows))

private theorem rowsOf_flatMap_keys
    [DecidableEq Key]
    {outKey : Out -> Key}
    {part : Key -> List Out}
    (tagged : forall value out, out ∈ part value -> outKey out = value)
    (value : Key)
    (values : List Key)
    (distinct : values.Nodup) :
    rowsOf outKey value (values.flatMap part) =
      if value ∈ values then part value else [] := by
  induction values with
  | nil => simp
  | cons head tail inductionHypothesis =>
      obtain ⟨headAbsent, tailDistinct⟩ := List.nodup_cons.mp distinct
      rw [List.flatMap_cons, rowsOf_append, inductionHypothesis tailDistinct]
      by_cases same : value = head
      · subst same
        rw [if_neg headAbsent, if_pos List.mem_cons_self, List.append_nil]
        apply List.filter_eq_self.mpr
        intro out member
        simp [tagged value out member]
      · have dropped : rowsOf outKey value (part head) = [] := by
          apply List.filter_eq_nil_iff.mpr
          intro out member
          simp [tagged head out member, Ne.symm same]
        simp [dropped, same]

/-- A window function whose results carry the key of their partition gives, for
each key, its value on the ordered rows of that key. -/
theorem rowsOf_windowOver
    [DecidableEq Key]
    [LinearOrder Time]
    {key : Row -> Key}
    {time : Row -> Time}
    {window : List Row -> List Out}
    {outKey : Out -> Key}
    (empty : window [] = [])
    (tagged : forall value part, (forall row, row ∈ part -> key row = value) ->
      forall out, out ∈ window part -> outKey out = value)
    (value : Key)
    (rows : List Row) :
    rowsOf outKey value (windowOver key time window rows) =
      window (orderedBy time (rowsOf key value rows)) := by
  have distinct : (keys key rows).Nodup := List.nodup_dedup _
  unfold windowOver
  rw [rowsOf_flatMap_keys _ value _ distinct]
  · by_cases present : value ∈ keys key rows
    · rw [if_pos present]
    · rw [if_neg present]
      have none : rowsOf key value rows = [] := by
        apply List.filter_eq_nil_iff.mpr
        intro row member
        have absent := mt mem_keys.mpr present
        simpa using fun same => absent ⟨row, member, same⟩
      rw [none]
      exact empty.symm
  · intro other out member
    apply tagged other _ _ out member
    intro row rowMember
    exact (mem_rowsOf.mp ((orderedBy_perm time _).mem_iff.mp rowMember)).2

/-- The rows of distinct keys that cover a table are the table. -/
theorem flatMap_rowsOf_perm
    [DecidableEq Key]
    {key : Row -> Key}
    {values : List Key}
    {rows : List Row}
    (distinct : values.Nodup)
    (covers : forall row, row ∈ rows -> key row ∈ values) :
    (values.flatMap fun value => rowsOf key value rows).Perm rows := by
  apply perm_of_rowsOf key
  intro value
  have ofValue : rowsOf key value (values.flatMap fun value => rowsOf key value rows) =
      if value ∈ values then rowsOf key value rows else [] :=
    rowsOf_flatMap_keys (fun other row member => (mem_rowsOf.mp member).2) value values distinct
  rw [ofValue]
  by_cases present : value ∈ values
  · rw [if_pos present]
  · rw [if_neg present, rowsOf_eq_nil_iff.mpr]
    rintro row member rfl
    exact present (covers row member)

section First

variable [DecidableEq Key] [LinearOrder Time] {key : Row -> Key} {time : Row -> Time}
  {rows : List Row}

/-- The rows of one key of the first rows of the partitions. -/
theorem rowsOf_first (value : Key) :
    rowsOf key value (windowOver key time (List.take 1) rows) =
      (orderedBy time (rowsOf key value rows)).take 1 := by
  refine rowsOf_windowOver rfl (fun value part ofKey row member => ?_) value rows
  exact ofKey row (List.mem_of_mem_take member)

/-- The first rows of the partitions have distinct keys. -/
theorem nodup_first :
    ((windowOver key time (List.take 1) rows).map key).Nodup := by
  rw [← groupsWhere_repeated_eq_nil_iff, groupsWhere_eq_nil_iff]
  intro row _
  rw [rowsOf_first, decide_eq_false_iff_not, Nat.not_lt]
  exact List.length_take_le _ _

/-- Where no two rows of a key have the same time, the first row of a partition is the one
that is not after any other. -/
theorem mem_first_iff
    (noTies : forall left, left ∈ rows -> forall right, right ∈ rows ->
      key left = key right -> time left = time right -> left = right)
    {row : Row} :
    row ∈ windowOver key time (List.take 1) rows ↔
      row ∈ rows ∧ forall other, other ∈ rows -> key other = key row -> time row ≤ time other := by
  have inPartition : row ∈ windowOver key time (List.take 1) rows ↔
      row ∈ (orderedBy time (rowsOf key (key row) rows)).take 1 := by
    rw [← rowsOf_first, mem_rowsOf]
    exact (and_iff_left rfl).symm
  have perm := orderedBy_perm time (rowsOf key (key row) rows)
  have ordered := orderedBy_pairwise time (rowsOf key (key row) rows)
  rw [inPartition]
  cases partition : orderedBy time (rowsOf key (key row) rows) with
  | nil =>
      rw [partition] at perm
      simp only [List.take_nil, List.not_mem_nil, false_iff, not_and]
      intro member
      exact absurd (perm.mem_iff.mpr (mem_rowsOf.mpr ⟨member, rfl⟩)) List.not_mem_nil
  | cons first later =>
      rw [partition] at perm ordered
      have isFirst : forall other, other ∈ rows -> key other = key row ->
          time first ≤ time other := by
        intro other member sameKey
        rcases List.mem_cons.mp (perm.mem_iff.mpr (mem_rowsOf.mpr ⟨member, sameKey⟩)) with
          rfl | isLater
        · exact le_rfl
        · exact List.rel_of_pairwise_cons ordered isLater
      obtain ⟨firstMember, firstKey⟩ := mem_rowsOf.mp (perm.mem_iff.mp List.mem_cons_self)
      rw [List.take_succ_cons, List.take_zero, List.mem_singleton]
      constructor
      · rintro rfl
        exact ⟨firstMember, isFirst⟩
      · rintro ⟨member, least⟩
        exact noTies row member first firstMember firstKey.symm
          (le_antisymm (least first firstMember firstKey) (isFirst row member rfl))

omit [LinearOrder Time] in
private theorem exists_mem_take_one {values : List Row} (present : values ≠ []) :
    Exists fun value => value ∈ values.take 1 := by
  cases values with
  | nil => exact absurd rfl present
  | cons value values => exact ⟨value, List.mem_cons_self⟩

/-- Every key has a first row. -/
theorem exists_mem_first {row : Row} (member : row ∈ rows) :
    Exists fun first =>
      first ∈ windowOver key time (List.take 1) rows ∧ key first = key row := by
  have perm := orderedBy_perm time (rowsOf key (key row) rows)
  have inPartition := perm.mem_iff.mpr (mem_rowsOf.mpr ⟨member, rfl⟩)
  obtain ⟨first, isFirst⟩ := exists_mem_take_one (List.ne_nil_of_mem inPartition)
  rw [← rowsOf_first, mem_rowsOf] at isFirst
  exact ⟨first, isFirst⟩

end First

/-- Each row with the row before it. -/
def lagFrom (previous : Option Row) : List Row -> List (Option Row × Row)
  | [] => []
  | row :: rows => (previous, row) :: lagFrom (some row) rows

/-- `lag`: the first row has no predecessor. -/
def lag (rows : List Row) : List (Option Row × Row) :=
  lagFrom none rows

/-- `lead`: each row with the row after it. -/
def lead : List Row -> List (Row × Option Row)
  | [] => []
  | row :: rows => (row, rows.head?) :: lead rows

/-- Consecutive rows of a chain are related. -/
theorem lagFrom_of_isChain
    {related : Row -> Row -> Prop}
    (previous : Option Row)
    {rows : List Row}
    (chain : (previous.toList ++ rows).IsChain related)
    {before row : Row}
    (member : (some before, row) ∈ lagFrom previous rows) :
    related before row := by
  induction rows generalizing previous with
  | nil => simp [lagFrom] at member
  | cons head tail inductionHypothesis =>
      rw [lagFrom, List.mem_cons] at member
      have tailChain : (head :: tail).IsChain related :=
        (List.isChain_append.mp chain).2.1
      rcases member with first | later
      · obtain ⟨rfl, rfl⟩ := Prod.mk.inj first
        exact (List.isChain_cons_cons.mp chain).1
      · exact inductionHypothesis (some head) tailChain later

/-- A condition that the first row does not meet is met by no row of the lag exactly when
no two consecutive rows meet it. -/
theorem filter_lagFrom_eq_nil_iff
    {condition : Option Row × Row -> Bool}
    (first : forall row, condition (none, row) = false)
    (previous : Option Row)
    (rows : List Row) :
    (lagFrom previous rows).filter condition = [] ↔
      (previous.toList ++ rows).IsChain fun before row =>
        condition (some before, row) = false := by
  induction rows generalizing previous with
  | nil => cases previous <;> simp [lagFrom]
  | cons row rest inductionHypothesis =>
      have tail := inductionHypothesis (some row)
      rw [lagFrom, List.filter_eq_nil_iff, List.forall_mem_cons, ← List.filter_eq_nil_iff, tail]
      cases previous with
      | none => simp [first]
      | some before => simp [List.isChain_cons_cons]

theorem filter_lag_eq_nil_iff
    {condition : Option Row × Row -> Bool}
    (first : forall row, condition (none, row) = false)
    (rows : List Row) :
    (lag rows).filter condition = [] ↔
      rows.IsChain fun before row => condition (some before, row) = false :=
  filter_lagFrom_eq_nil_iff first none rows

@[simp] theorem lagFrom_map_snd (previous : Option Row) (rows : List Row) :
    (lagFrom previous rows).map Prod.snd = rows := by
  induction rows generalizing previous with
  | nil => rfl
  | cons row rows inductionHypothesis => simp [lagFrom, inductionHypothesis]

@[simp] theorem lag_map_snd (rows : List Row) :
    (lag rows).map Prod.snd = rows :=
  lagFrom_map_snd none rows

@[simp] theorem lead_map_fst (rows : List Row) :
    (lead rows).map Prod.fst = rows := by
  induction rows with
  | nil => rfl
  | cons row rows inductionHypothesis => simp [lead, inductionHypothesis]

/-! ## Joins -/

/-- Inner join: every matching pair of rows. -/
def innerJoin (on : Row -> Other -> Bool) (left : List Row) (right : List Other) :
    List (Row × Other) :=
  left.flatMap fun row => (right.filter (on row)).map fun other => (row, other)

/-- Left join: the matching pairs, and each unmatched left row once. -/
def leftJoin (on : Row -> Other -> Bool) (left : List Row) (right : List Other) :
    List (Row × Option Other) :=
  left.flatMap fun row =>
    match right.filter (on row) with
    | [] => [(row, none)]
    | first :: rest => (first :: rest).map fun other => (row, some other)

/-- Left anti join: the left rows without a match. -/
def leftAnti (on : Row -> Other -> Bool) (left : List Row) (right : List Other) : List Row :=
  left.filter fun row => !(right.any fun other => on row other)

theorem leftAnti_eq_nil_iff
    {on : Row -> Other -> Bool}
    {left : List Row}
    {right : List Other} :
    leftAnti on left right = [] ↔ forall row, row ∈ left ->
      Exists fun other => other ∈ right ∧ on row other = true := by
  simp [leftAnti, List.filter_eq_nil_iff]

theorem mem_innerJoin
    {on : Row -> Other -> Bool}
    {left : List Row}
    {right : List Other}
    {pair : Row × Other} :
    pair ∈ innerJoin on left right ↔
      pair.1 ∈ left ∧ pair.2 ∈ right ∧ on pair.1 pair.2 = true := by
  obtain ⟨row, other⟩ := pair
  simp only [innerJoin, List.mem_flatMap, List.mem_map, List.mem_filter, Prod.mk.injEq]
  constructor
  · rintro ⟨_, rowMember, _, ⟨otherMember, holds⟩, rfl, rfl⟩
    exact ⟨rowMember, otherMember, holds⟩
  · rintro ⟨rowMember, otherMember, holds⟩
    exact ⟨row, rowMember, other, ⟨otherMember, holds⟩, rfl, rfl⟩

/-- A left join that finds at most one partner for each row keeps the rows. -/
theorem leftJoin_eq_map
    {on : Row -> Other -> Bool}
    {left : List Row}
    {right : List Other}
    {partner : Row -> Option Other}
    (unique : forall row, row ∈ left -> right.filter (on row) = (partner row).toList) :
    leftJoin on left right = left.map fun row => (row, partner row) := by
  rw [leftJoin, List.map_eq_flatMap]
  apply List.flatMap_congr
  intro row member
  rw [unique row member]
  cases partner row <;> rfl

/-- An inner join that finds exactly one partner for each row keeps the rows. -/
theorem innerJoin_eq_map
    {on : Row -> Other -> Bool}
    {left : List Row}
    {right : List Other}
    {partner : Row -> Other}
    (unique : forall row, row ∈ left -> right.filter (on row) = [partner row]) :
    innerJoin on left right = left.map fun row => (row, partner row) := by
  rw [innerJoin, List.map_eq_flatMap]
  apply List.flatMap_congr
  intro row member
  rw [unique row member]
  rfl

/-- The left rows of an inner join that finds at most one partner for each are
the rows that have a partner. -/
theorem innerJoin_map_fst
    {on : Row -> Other -> Bool}
    {left : List Row}
    {right : List Other}
    {partner : Row -> Option Other}
    (unique : forall row, row ∈ left -> right.filter (on row) = (partner row).toList) :
    (innerJoin on left right).map Prod.fst =
      left.filter fun row => (partner row).isSome := by
  induction left with
  | nil => rfl
  | cons head tail inductionHypothesis =>
      have rest := inductionHypothesis fun row member =>
        unique row (List.mem_cons_of_mem head member)
      unfold innerJoin at rest ⊢
      rw [List.flatMap_cons, List.map_append, rest, unique head List.mem_cons_self]
      cases found : partner head with
      | none => simp [found]
      | some other => simp [found]

/-! ## Merging and comparing tables -/

/-- `MERGE` with an update and a guarded insert. A target row that matches more
than one source row is an error. -/
def merge
    (on : Row -> Other -> Bool)
    (update : Row -> Other -> Row)
    (insertable : Other -> Bool)
    (insert : Other -> Row)
    (target : List Row)
    (source : List Other) : Option (List Row) :=
  if target.any fun row => 1 < (source.filter (on row)).length then none
  else some
    ((target.map fun row =>
        match source.find? (on row) with
        | none => row
        | some other => update row other) ++
      (source.filter fun other =>
        !(target.any fun row => on row other) && insertable other).map insert)

/-- A merge in which every target row matches at most one source row. -/
theorem merge_eq_some
    {on : Row -> Other -> Bool}
    {update : Row -> Other -> Row}
    {insertable : Other -> Bool}
    {insert : Other -> Row}
    {target : List Row}
    {source : List Other}
    {partner : Row -> Option Other}
    (unique : forall row, row ∈ target ->
      source.filter (on row) = (partner row).toList) :
    merge on update insertable insert target source =
      some ((target.map fun row => (partner row).elim row (update row)) ++
        (source.filter fun other =>
          !(target.any fun row => on row other) && insertable other).map insert) := by
  have single : ¬(target.any fun row => 1 < (source.filter (on row)).length) = true := by
    simp only [List.any_eq_true, decide_eq_true_eq, not_exists, not_and, not_lt]
    intro row member
    rw [unique row member]
    cases partner row <;> simp
  rw [merge, if_neg single]
  congr 2
  apply List.map_congr_left
  intro row member
  rw [← List.head?_filter, unique row member]
  cases partner row <;> rfl

/-- `MERGE .. WHEN NOT MATCHED THEN INSERT`: every source row that matches no
target row is added. -/
def mergeInsert
    (on : Row -> Row -> Bool)
    (target source : List Row) : List Row :=
  target ++ source.filter fun other => !(target.any fun row => on row other)

/-- Rows without a partner in the target are all added. -/
theorem mergeInsert_of_absent
    {on : Row -> Row -> Bool}
    {target source : List Row}
    (absent : forall other, other ∈ source -> forall row, row ∈ target ->
      on row other = false) :
    mergeInsert on target source = target ++ source := by
  unfold mergeInsert
  congr 1
  apply List.filter_eq_self.mpr
  intro other member
  simpa using absent other member

/-- Rows that all have a partner in the target leave it as it is. -/
theorem mergeInsert_of_present
    {on : Row -> Row -> Bool}
    {target source : List Row}
    (present : forall other, other ∈ source ->
      Exists fun row => row ∈ target ∧ on row other = true) :
    mergeInsert on target source = target := by
  unfold mergeInsert
  rw [List.filter_eq_nil_iff.mpr, List.append_nil]
  intro other member
  simpa using present other member

section ByColumns

variable {on : Row -> Row -> Bool} {columns : Row -> Key} {present : Key -> Bool}

/-- Rows match when their columns are equal and none of these is null. -/
def MatchesOn (on : Row -> Row -> Bool) (columns : Row -> Key) (present : Key -> Bool) : Prop :=
  forall row other, on row other = true ↔
    columns row = columns other ∧ present (columns other) = true

/-- The values that a merge leaves are those of the target and of the source. -/
theorem mem_mergeInsert_columns
    (byColumns : MatchesOn on columns present)
    {target source : List Row}
    {value : Key} :
    value ∈ (mergeInsert on target source).map columns ↔
      value ∈ target.map columns ∨ value ∈ source.map columns := by
  rw [mergeInsert, List.map_append, List.mem_append]
  constructor
  · rintro (old | added)
    · exact Or.inl old
    · exact Or.inr (List.map_subset _ (List.filter_subset_self _) added)
  · rintro (old | isSource)
    · exact Or.inl old
    · obtain ⟨other, member, rfl⟩ := List.mem_map.mp isSource
      cases matched : target.any fun row => on row other with
      | true =>
          obtain ⟨row, isRow, holds⟩ := List.any_eq_true.mp matched
          exact Or.inl (List.mem_map.mpr ⟨row, isRow, ((byColumns row other).mp holds).1⟩)
      | false =>
          refine Or.inr (List.mem_map_of_mem (List.mem_filter.mpr ⟨member, ?_⟩))
          rw [matched]
          rfl

/-- A source row is added when a column is null or the target has not its values. -/
theorem mergeInsert_any_iff
    (byColumns : MatchesOn on columns present)
    {target : List Row}
    {other : Row} :
    (target.any fun row => on row other) = true ↔
      present (columns other) = true ∧ columns other ∈ target.map columns := by
  rw [List.any_eq_true, List.mem_map]
  constructor
  · rintro ⟨row, member, holds⟩
    obtain ⟨same, isPresent⟩ := (byColumns row other).mp holds
    exact ⟨isPresent, row, member, same⟩
  · rintro ⟨isPresent, row, member, same⟩
    exact ⟨row, member, (byColumns row other).mpr ⟨same, isPresent⟩⟩

/-- A merge keeps values distinct exactly when those of the added rows are. -/
theorem nodup_mergeInsert_iff
    [DecidableEq Key]
    (byColumns : MatchesOn on columns present)
    {target source : List Row}
    (allPresent : forall other, other ∈ source -> present (columns other) = true) :
    ((mergeInsert on target source).map columns).Nodup ↔
      (target.map columns).Nodup ∧
        ((source.filter fun other => columns other ∉ target.map columns).map columns).Nodup := by
  have added : (source.filter fun other => !(target.any fun row => on row other)) =
      source.filter fun other => columns other ∉ target.map columns := by
    refine List.filter_congr fun other member => ?_
    rw [Bool.eq_iff_iff, Bool.not_eq_true', ← Bool.not_eq_true, mergeInsert_any_iff byColumns]
    simp [allPresent other member]
  rw [mergeInsert, added, List.map_append, List.nodup_append]
  constructor
  · rintro ⟨targetDistinct, addedDistinct, _⟩
    exact ⟨targetDistinct, addedDistinct⟩
  · rintro ⟨targetDistinct, addedDistinct⟩
    refine ⟨targetDistinct, addedDistinct, ?_⟩
    rintro value isTarget _ isAdded rfl
    obtain ⟨other, isOther, rfl⟩ := List.mem_map.mp isAdded
    have absent := (List.mem_filter.mp isOther).2
    simp only [decide_eq_true_eq] at absent
    exact absent isTarget

/-- A merge adds nothing exactly when the target has the values of every source row and
no column of it is null. -/
theorem length_mergeInsert_iff
    (byColumns : MatchesOn on columns present)
    {target source : List Row} :
    (mergeInsert on target source).length = target.length ↔
      forall other, other ∈ source ->
        present (columns other) = true ∧ columns other ∈ target.map columns := by
  rw [mergeInsert, List.length_append, Nat.add_eq_left, List.length_eq_zero_iff,
    List.filter_eq_nil_iff]
  refine forall_congr' fun other => forall_congr' fun _ => ?_
  rw [Bool.not_eq_true', Bool.not_eq_false, mergeInsert_any_iff byColumns]

/-- In a source with distinct values a row matches the one with its values. -/
theorem filter_matching
    [DecidableEq Key]
    (byColumns : MatchesOn on columns present)
    {source : List Row}
    (distinct : (source.map columns).Nodup)
    {row other : Row}
    (isSource : other ∈ source)
    (isPresent : present (columns other) = true)
    (same : columns row = columns other) :
    source.filter (on row) = [other] := by
  rw [← rowsOf_eq_singleton distinct isSource, rowsOf]
  refine List.filter_congr fun candidate _ => ?_
  rw [Bool.eq_iff_iff, byColumns, decide_eq_true_iff, same, eq_comm]
  exact and_iff_left_of_imp fun sameColumns => sameColumns ▸ isPresent

section Upsert

variable [DecidableEq Key] {update : Row -> Row -> Row} {target source : List Row}

/-- What makes a merge an update of the target to the source: both have distinct values, of
which none is null, every target row has a partner, and is changed into it. -/
structure Upsert
    (on : Row -> Row -> Bool)
    (columns : Row -> Key)
    (present : Key -> Bool)
    (update : Row -> Row -> Row)
    (target source : List Row) : Prop where
  byColumns : MatchesOn on columns present
  targetDistinct : (target.map columns).Nodup
  sourceDistinct : (source.map columns).Nodup
  allPresent : forall other, other ∈ source -> present (columns other) = true
  partnered : forall row, row ∈ target ->
    Exists fun other => other ∈ source ∧ columns row = columns other
  updates : forall row, row ∈ target -> forall other, other ∈ source ->
    columns row = columns other -> update row other = other

/-- The partner of a target row. -/
theorem Upsert.find
    (upsert : Upsert on columns present update target source)
    {row : Row}
    (member : row ∈ target) :
    Exists fun other => other ∈ source ∧ columns row = columns other ∧
      source.find? (on row) = some other ∧ source.filter (on row) = [other] := by
  obtain ⟨other, isSource, same⟩ := upsert.partnered row member
  have only := filter_matching upsert.byColumns upsert.sourceDistinct isSource
    (upsert.allPresent other isSource) same
  refine ⟨other, isSource, same, ?_, only⟩
  rw [← List.head?_filter, only, List.head?_cons]

/-- The result of an update of the target to the source. -/
theorem Upsert.merge_eq
    (upsert : Upsert on columns present update target source) :
    merge on update (fun _ => true) id target source =
      some ((target.map fun row => (source.find? (on row)).elim row (update row)) ++
        source.filter fun other => columns other ∉ target.map columns) := by
  rw [merge_eq_some fun row member => ?_, List.map_id]
  · refine congrArg (fun rows => some (_ ++ rows)) (List.filter_congr fun other isSource => ?_)
    rw [Bool.and_true, Bool.eq_iff_iff, Bool.not_eq_true', ← Bool.not_eq_true,
      mergeInsert_any_iff upsert.byColumns]
    simp [upsert.allPresent other isSource]
  · obtain ⟨other, _, _, found, only⟩ := upsert.find member
    rw [found, only]
    rfl

/-- An update of the target to the source has the rows of the source, each value once. -/
theorem Upsert.replaces
    (upsert : Upsert on columns present update target source) :
    Exists fun result => merge on update (fun _ => true) id target source = some result ∧
      (result.map columns).Nodup ∧ forall row, row ∈ result ↔ row ∈ source := by
  have becomes : forall row, row ∈ target -> Exists fun other => other ∈ source ∧
      columns row = columns other ∧
        (source.find? (on row)).elim row (update row) = other := by
    intro row member
    obtain ⟨other, isSource, same, found, _⟩ := upsert.find member
    refine ⟨other, isSource, same, ?_⟩
    rw [found]
    exact upsert.updates row member other isSource same
  refine ⟨_, upsert.merge_eq, ?_, fun row => ?_⟩
  · have kept : (target.map fun row => (source.find? (on row)).elim row (update row)).map columns =
        target.map columns := by
      rw [List.map_map]
      refine List.map_congr_left fun row member => ?_
      obtain ⟨other, _, same, isOther⟩ := becomes row member
      rw [Function.comp_apply, isOther, same]
    rw [List.map_append, kept, List.nodup_append]
    refine ⟨upsert.targetDistinct,
      upsert.sourceDistinct.sublist (List.filter_sublist.map columns), ?_⟩
    rintro value isTarget _ isAdded rfl
    obtain ⟨other, isOther, rfl⟩ := List.mem_map.mp isAdded
    exact of_decide_eq_true (List.mem_filter.mp isOther).2 isTarget
  · rw [List.mem_append, List.mem_map, List.mem_filter, decide_eq_true_eq]
    constructor
    · rintro (⟨old, member, rfl⟩ | ⟨isSource, _⟩)
      · obtain ⟨other, isSource, _, isOther⟩ := becomes old member
        rw [isOther]
        exact isSource
      · exact isSource
    · intro isSource
      by_cases present : columns row ∈ target.map columns
      · left
        obtain ⟨old, member, same⟩ := List.mem_map.mp present
        obtain ⟨other, otherSource, otherSame, isOther⟩ := becomes old member
        refine ⟨old, member, isOther.trans ?_⟩
        exact List.inj_on_of_nodup_map upsert.sourceDistinct otherSource isSource
          (otherSame.symm.trans same)
      · exact Or.inr ⟨isSource, present⟩

/-- An update to a source with the rows of the target changes nothing. -/
theorem Upsert.unchanged
    (upsert : Upsert on columns present update target source)
    (sameRows : forall row, row ∈ target ↔ row ∈ source) :
    merge on update (fun _ => true) id target source = some target := by
  have kept : (target.map fun row => (source.find? (on row)).elim row (update row)) = target := by
    refine (List.map_congr_left fun row member => ?_).trans (List.map_id target)
    obtain ⟨other, isSource, same, found, _⟩ := upsert.find member
    have isRow : other = row := List.inj_on_of_nodup_map upsert.sourceDistinct isSource
      ((sameRows row).mp member) same.symm
    rw [found]
    exact (upsert.updates row member other isSource same).trans isRow
  have none : (source.filter fun other => columns other ∉ target.map columns) = [] := by
    refine List.filter_eq_nil_iff.mpr fun other isSource => ?_
    rw [decide_eq_true_eq, not_not]
    exact List.mem_map_of_mem ((sameRows other).mpr isSource)
  rw [upsert.merge_eq, kept, none, List.append_nil]

end Upsert

end ByColumns

/-- `dropDuplicates`: the first row of each value. -/
def distinctBy [DecidableEq Key] (key : Row -> Key) : List Row -> List Row
  | [] => []
  | row :: rows => row :: (distinctBy key rows).filter fun other => key other ≠ key row

theorem mem_of_mem_distinctBy
    [DecidableEq Key]
    {key : Row -> Key}
    {rows : List Row}
    {row : Row}
    (member : row ∈ distinctBy key rows) :
    row ∈ rows := by
  induction rows with
  | nil => exact member
  | cons head rows inductionHypothesis =>
      rcases List.mem_cons.mp member with rfl | later
      · exact List.mem_cons_self
      · exact List.mem_cons_of_mem _ (inductionHypothesis (List.mem_filter.mp later).1)

theorem nodup_distinctBy [DecidableEq Key] (key : Row -> Key) (rows : List Row) :
    ((distinctBy key rows).map key).Nodup := by
  induction rows with
  | nil => exact List.nodup_nil
  | cons head rows inductionHypothesis =>
      rw [distinctBy, List.map_cons, List.nodup_cons]
      refine ⟨?_, inductionHypothesis.sublist (List.filter_sublist.map key)⟩
      rw [List.mem_map]
      rintro ⟨other, member, same⟩
      exact of_decide_eq_true (List.mem_filter.mp member).2 same

/-- Every value keeps a row. -/
theorem mem_distinctBy_map
    [DecidableEq Key]
    {key : Row -> Key}
    {rows : List Row}
    {value : Key} :
    value ∈ (distinctBy key rows).map key ↔ value ∈ rows.map key := by
  induction rows with
  | nil => exact Iff.rfl
  | cons head rows inductionHypothesis =>
      rw [distinctBy, List.map_cons, List.map_cons, List.mem_cons, List.mem_cons,
        ← inductionHypothesis]
      by_cases same : value = key head
      · simp [same]
      · simp only [same, false_or, List.mem_map, List.mem_filter, decide_eq_true_eq]
        constructor
        · rintro ⟨row, ⟨member, _⟩, isValue⟩
          exact ⟨row, member, isValue⟩
        · rintro ⟨row, member, rfl⟩
          exact ⟨row, ⟨member, same⟩, rfl⟩

/-- The rows of the left table that exceed those of the right one, counted with
multiplicity. -/
def exceptAll [DecidableEq Row] (left right : List Row) : List Row :=
  left.diff right

/-- Neither table exceeds the other exactly when both hold the same rows. -/
theorem exceptAll_both_eq_nil_iff
    [DecidableEq Row]
    {left right : List Row} :
    exceptAll left right = [] ∧ exceptAll right left = [] ↔ left.Perm right := by
  have included : forall first second : List Row,
      exceptAll first second = [] ↔
        forall row, first.count row ≤ second.count row := by
    intro first second
    constructor
    · intro none row
      have counts := List.count_diff row first second
      rw [show first.diff second = [] from none, List.count_nil] at counts
      omega
    · intro bounded
      apply List.eq_nil_iff_forall_not_mem.mpr
      intro row member
      have positive := List.count_pos_iff.mpr member
      rw [exceptAll, List.count_diff] at positive
      have := bounded row
      omega
  rw [included, included, List.perm_iff_count]
  constructor
  · rintro ⟨le, ge⟩ row
    exact le_antisymm (le row) (ge row)
  · intro equal
    exact ⟨fun row => (equal row).le, fun row => (equal row).ge⟩

end Table
end Library
end LakehouseOps
