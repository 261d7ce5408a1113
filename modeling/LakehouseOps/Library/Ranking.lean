import LakehouseOps.Library.Table

/-!
# Row numbers and quality rules

`row_number` over the partitions of a key, and tables of rows with the errors of the
rules that they break. A row that is not the first of its key breaks one more rule, so
the first row of a key decides whether any row of the key is accepted.
-/

namespace LakehouseOps
namespace Library
namespace Table

variable {Row Other Key Rank Error : Type*}

/-! ## Row numbers -/

section RowNumbers

variable [DecidableEq Key] [LinearOrder Rank]

/-- `row_number()` over the partitions of a key. -/
def rowNumbered (key : Row -> Key) (order : Row -> Rank) (rows : List Row) : List (Row × Nat) :=
  windowOver key order (fun part => part.zipIdx 1) rows

/-- The first row of a key. -/
def leading (key : Row -> Key) (order : Row -> Rank) (value : Key) (rows : List Row) :
    Option Row :=
  (orderedBy order (rowsOf key value rows)).head?

variable {key : Row -> Key} {order : Row -> Rank} {rows : List Row}

theorem rowsOf_rowNumbered (value : Key) :
    rowsOf (fun ranked => key ranked.1) value (rowNumbered key order rows) =
      (orderedBy order (rowsOf key value rows)).zipIdx 1 := by
  apply rowsOf_windowOver rfl
  intro value part ofKey ranked member
  apply ofKey
  have inPart := List.mem_map_of_mem (f := Prod.fst) member
  rwa [List.zipIdx_map_fst] at inPart

/-- The numbered rows are the rows. -/
theorem rowNumbered_map_fst_perm : ((rowNumbered key order rows).map Prod.fst).Perm rows := by
  apply perm_of_rowsOf key
  intro value
  have ofKey : rowsOf key value ((rowNumbered key order rows).map Prod.fst) =
      (rowsOf (fun ranked => key ranked.1) value (rowNumbered key order rows)).map Prod.fst :=
    rowsOf_map (fun _ => rfl) value _
  rw [ofKey, rowsOf_rowNumbered, List.zipIdx_map_fst]
  exact orderedBy_perm order _

theorem leading_mem {value : Key} {first : Row} (isFirst : leading key order value rows = some first) :
    first ∈ rows ∧ key first = value := by
  rw [← mem_rowsOf, ← (orderedBy_perm order _).mem_iff]
  exact List.mem_of_mem_head? isFirst

theorem leading_isSome
    (key : Row -> Key)
    (order : Row -> Rank)
    {row : Row}
    (member : row ∈ rows) :
    Exists fun first => leading key order (key row) rows = some first := by
  rw [← Option.isSome_iff_exists, leading, List.isSome_head?]
  have inKey : row ∈ orderedBy order (rowsOf key (key row) rows) :=
    (orderedBy_perm order _).mem_iff.mpr (mem_rowsOf.mpr ⟨member, rfl⟩)
  exact List.ne_nil_of_mem inKey

/-- No row of the key comes before the first one. -/
theorem leading_le
    {value : Key}
    {first other : Row}
    (isFirst : leading key order value rows = some first)
    (member : other ∈ rows)
    (ofKey : key other = value) :
    order first ≤ order other := by
  have inKey : other ∈ orderedBy order (rowsOf key value rows) :=
    (orderedBy_perm order _).mem_iff.mpr (mem_rowsOf.mpr ⟨member, ofKey⟩)
  have ordered := orderedBy_pairwise order (rowsOf key value rows)
  unfold leading at isFirst
  cases part : orderedBy order (rowsOf key value rows) with
  | nil => exact absurd (part ▸ inKey) List.not_mem_nil
  | cons head tail =>
      rw [part, List.head?_cons, Option.some.injEq] at isFirst
      subst isFirst
      rw [part] at inKey ordered
      rcases List.mem_cons.mp inKey with rfl | later
      · exact le_refl _
      · exact (List.pairwise_cons.mp ordered).1 other later

/-- Of the rows of a key, the first one has the number one. -/
theorem filter_rowNumbered (value : Key) :
    (rowsOf (fun ranked => key ranked.1) value (rowNumbered key order rows)).filter
        (fun ranked => decide ¬1 < ranked.2) =
      (leading key order value rows).toList.map fun first => (first, 1) := by
  rw [rowsOf_rowNumbered, leading]
  cases orderedBy order (rowsOf key value rows) with
  | nil => rfl
  | cons first rest =>
      have later : (rest.zipIdx 2).filter (fun ranked => decide ¬1 < ranked.2) = [] := by
        rw [List.filter_eq_nil_iff]
        intro ranked member
        have atLeast := List.le_snd_of_mem_zipIdx member
        simp only [decide_not, Bool.not_eq_true', decide_eq_false_iff_not, not_not]
        omega
      rw [List.zipIdx_cons, List.filter_cons_of_pos rfl, later]
      rfl

end RowNumbers

/-! ## Rules -/

/-- `filter(array(when(..), ..), error -> error IS NOT NULL)` -/
def triggered (candidates : List (Bool × Error)) : List Error :=
  (candidates.filter Prod.fst).map Prod.snd

theorem triggered_eq_nil_iff {candidates : List (Bool × Error)} :
    triggered candidates = [] ↔ forall candidate, candidate ∈ candidates -> candidate.1 = false := by
  simp only [triggered, List.map_eq_nil_iff, List.filter_eq_nil_iff, Bool.not_eq_true]

@[simp] theorem triggered_append (left right : List (Bool × Error)) :
    triggered (left ++ right) = triggered left ++ triggered right := by
  simp [triggered]

/-- A row breaks no rule. -/
def Passing (rules : Row -> List (Bool × Error)) (row : Row) : Prop :=
  triggered (rules row) = []

instance (rules : Row -> List (Bool × Error)) (row : Row) : Decidable (Passing rules row) :=
  decidable_of_iff ((triggered (rules row)).length = 0) List.length_eq_zero_iff

/-- A row with the errors of the rules that it breaks. -/
structure Classified (Row Error : Type*) where
  row : Row
  errors : List Error
  deriving DecidableEq

/-- The rows without an error. -/
def accepted (classified : List (Classified Row Error)) : List (Classified Row Error) :=
  classified.filter fun entry => entry.errors.length = 0

/-- The rows with an error. -/
def rejected (classified : List (Classified Row Error)) : List (Classified Row Error) :=
  classified.filter fun entry => 0 < entry.errors.length

/-- Every row is accepted or rejected. -/
theorem accepted_append_rejected_perm (classified : List (Classified Row Error)) :
    (accepted classified ++ rejected classified).Perm classified := by
  have complement : rejected classified =
      classified.filter fun entry => !decide (entry.errors.length = 0) := by
    refine List.filter_congr fun entry _ => ?_
    rw [← decide_not, decide_eq_decide]
    omega
  rw [complement]
  exact List.filter_append_perm _ classified

/-! ## Duplicates -/

section Duplicates

variable [DecidableEq Key] [LinearOrder Rank]

/-- The errors of a row are those of its rules, and one more unless it is the first of its
key. -/
def classifyRow
    (rules : Row -> List (Bool × Error))
    (duplicate : Error)
    (ranked : Row × Nat) : Classified Row Error where
  row := ranked.1
  errors := triggered (rules ranked.1 ++ [(decide (1 < ranked.2), duplicate)])

def classifyRanked
    (key : Row -> Key)
    (order : Row -> Rank)
    (rules : Row -> List (Bool × Error))
    (duplicate : Error)
    (rows : List Row) : List (Classified Row Error) :=
  (rowNumbered key order rows).map (classifyRow rules duplicate)

variable {key : Row -> Key} {order : Row -> Rank} {rules : Row -> List (Bool × Error)}
  {duplicate : Error} {rows : List Row}

omit [DecidableEq Key] [LinearOrder Rank] in
theorem classifyRow_errors_iff {ranked : Row × Nat} :
    (classifyRow rules duplicate ranked).errors.length = 0 ↔
      Passing rules ranked.1 ∧ ¬1 < ranked.2 := by
  unfold classifyRow Passing
  rw [List.length_eq_zero_iff, triggered_append, List.append_eq_nil_iff]
  simp [triggered_eq_nil_iff]

theorem classifyRanked_perm :
    ((classifyRanked key order rules duplicate rows).map Classified.row).Perm rows := by
  unfold classifyRanked
  rw [List.map_map]
  exact rowNumbered_map_fst_perm

/-- Of the rows of a key, the first one is accepted if it breaks no rule. -/
theorem rowsOf_accepted
    (duplicate : Error)
    (value : Key) :
    (rowsOf (fun entry => key entry.row) value
        (accepted (classifyRanked key order rules duplicate rows))).map Classified.row =
      (leading key order value rows).toList.filter fun first => Passing rules first := by
  have both : rowsOf (fun entry => key entry.row) value
      (accepted (classifyRanked key order rules duplicate rows)) =
      (((rowsOf (fun ranked : Row × Nat => key ranked.1) value (rowNumbered key order rows)).filter
        fun ranked => decide ¬1 < ranked.2).filter fun ranked => Passing rules ranked.1).map
          (classifyRow rules duplicate) := by
    unfold rowsOf accepted classifyRanked
    rw [List.filter_map, List.filter_map, List.filter_filter, List.filter_filter,
      List.filter_filter]
    congr 1
    refine List.filter_congr fun ranked _ => ?_
    rw [Function.comp_apply, Function.comp_apply, Bool.eq_iff_iff]
    simp only [Bool.and_eq_true, decide_eq_true_eq, classifyRow_errors_iff]
    tauto
  rw [both, filter_rowNumbered, List.map_map]
  cases leading key order value rows with
  | none => rfl
  | some first => by_cases passes : Passing rules first <;> simp [passes, classifyRow]

/-- Each key has at most one accepted row. -/
theorem nodup_accepted :
    ((accepted (classifyRanked key order rules duplicate rows)).map
      fun entry => key entry.row).Nodup := by
  rw [← groupsWhere_repeated_eq_nil_iff, groupsWhere_eq_nil_iff]
  intro entry _
  have one : (rowsOf (fun entry => key entry.row) (key entry.row)
      (accepted (classifyRanked key order rules duplicate rows))).length =
      ((leading key order (key entry.row) rows).toList.filter fun first =>
        Passing rules first).length := by
    rw [← rowsOf_accepted duplicate, List.length_map]
  rw [one, decide_eq_false_iff_not, Nat.not_lt]
  exact (List.length_filter_le _ _).trans (by cases leading key order (key entry.row) rows <;> simp)

/-- An accepted row is the first one of its key and breaks no rule. -/
theorem mem_accepted_iff {row : Row} :
    row ∈ (accepted (classifyRanked key order rules duplicate rows)).map Classified.row ↔
      leading key order (key row) rows = some row ∧ Passing rules row := by
  have ofKey : row ∈ (accepted (classifyRanked key order rules duplicate rows)).map
      Classified.row ↔ row ∈ (rowsOf (fun entry => key entry.row) (key row)
        (accepted (classifyRanked key order rules duplicate rows))).map Classified.row := by
    simp only [List.mem_map, mem_rowsOf]
    constructor
    · rintro ⟨entry, member, rfl⟩
      exact ⟨entry, ⟨member, rfl⟩, rfl⟩
    · rintro ⟨entry, ⟨member, _⟩, rfl⟩
      exact ⟨entry, member, rfl⟩
  rw [ofKey, rowsOf_accepted, List.mem_filter, Option.mem_toList, decide_eq_true_eq]

/-- A key has an accepted row exactly when its first row breaks no rule. -/
theorem exists_accepted_iff {value : Key} :
    (Exists fun entry => entry ∈ accepted (classifyRanked key order rules duplicate rows) ∧
      key entry.row = value) ↔
      Exists fun first => leading key order value rows = some first ∧ Passing rules first := by
  constructor
  · rintro ⟨entry, member, rfl⟩
    exact ⟨entry.row, mem_accepted_iff.mp (List.mem_map_of_mem member)⟩
  · rintro ⟨first, isFirst, passes⟩
    have ofKey := (leading_mem isFirst).2
    subst ofKey
    obtain ⟨entry, member, rfl⟩ := List.mem_map.mp (mem_accepted_iff.mpr ⟨isFirst, passes⟩)
    exact ⟨entry, member, rfl⟩

/-- Where all rows pass, the accepted rows have the values of the table, each key once. -/
theorem accepted_perm_of_passing
    {value : Row -> Other}
    {otherKey : Other -> Key}
    {others : List Other}
    (duplicate : Error)
    (keyed : forall row, otherKey (value row) = key row)
    (distinct : (others.map otherKey).Nodup)
    (passing : forall row, row ∈ rows -> Passing rules row)
    (values : forall other, other ∈ others ↔ Exists fun row => row ∈ rows ∧ value row = other) :
    ((accepted (classifyRanked key order rules duplicate rows)).map fun entry =>
      value entry.row).Perm others := by
  have keysDistinct : ((accepted (classifyRanked key order rules duplicate rows)).map fun entry =>
      otherKey (value entry.row)).Nodup := by
    simp only [keyed]
    exact nodup_accepted
  have valuesDistinct : ((accepted (classifyRanked key order rules duplicate rows)).map fun entry =>
      value entry.row).Nodup := by
    apply List.Nodup.of_map otherKey
    rwa [List.map_map]
  rw [List.perm_ext_iff_of_nodup valuesDistinct (List.Nodup.of_map otherKey distinct)]
  intro other
  rw [List.mem_map, values]
  constructor
  · rintro ⟨entry, member, rfl⟩
    have isFirst := (mem_accepted_iff.mp (List.mem_map_of_mem member)).1
    exact ⟨entry.row, (leading_mem isFirst).1, rfl⟩
  · rintro ⟨row, member, rfl⟩
    obtain ⟨first, isFirst⟩ := leading_isSome key order member
    obtain ⟨inRows, ofKey⟩ := leading_mem isFirst
    obtain ⟨entry, isAccepted, sameKey⟩ := exists_accepted_iff.mpr
      ⟨first, isFirst, passing first inRows⟩
    have inTable := (leading_mem (mem_accepted_iff.mp (List.mem_map_of_mem isAccepted)).1).1
    refine ⟨entry, isAccepted, List.inj_on_of_nodup_map distinct
      ((values _).mpr ⟨_, inTable, rfl⟩) ((values _).mpr ⟨row, member, rfl⟩) ?_⟩
    rw [keyed, keyed, sameKey]

/-- Where all rows pass, a rejected row is only a duplicate. -/
theorem rejected_errors_of_passing
    (passing : forall row, row ∈ rows -> Passing rules row)
    {entry : Classified Row Error}
    (member : entry ∈ rejected (classifyRanked key order rules duplicate rows)) :
    entry.errors = [duplicate] := by
  obtain ⟨isEntry, hasError⟩ := List.mem_filter.mp member
  obtain ⟨ranked, isRanked, rfl⟩ := List.mem_map.mp isEntry
  have inRows : ranked.1 ∈ rows :=
    rowNumbered_map_fst_perm.mem_iff.mp (List.mem_map_of_mem isRanked)
  have passes : triggered (rules ranked.1) = [] := passing ranked.1 inRows
  have errors : (classifyRow rules duplicate ranked).errors =
      triggered [(decide (1 < ranked.2), duplicate)] := by
    rw [classifyRow, triggered_append, passes, List.nil_append]
  rw [errors] at hasError ⊢
  by_cases later : 1 < ranked.2
  · simp [triggered, later]
  · simp [triggered, later] at hasError

omit [DecidableEq Key] [LinearOrder Rank] in
/-- The accepted and the rejected rows are as many as all. -/
theorem length_accepted_add_rejected (classified : List (Classified Row Error)) :
    (accepted classified).length + (rejected classified).length = classified.length := by
  rw [← List.length_append, (accepted_append_rejected_perm classified).length_eq]

theorem length_classifyRanked :
    (classifyRanked key order rules duplicate rows).length = rows.length := by
  have same : ((classifyRanked key order rules duplicate rows).map Classified.row).Perm rows :=
    classifyRanked_perm
  rw [← same.length_eq, List.length_map]

/-- Of the rows of a key, one is accepted, no other one is, and no passing one comes
before it in the order. -/
structure OneSurvivor
    (key : Row -> Key)
    (order : Row -> Rank)
    (rules : Row -> List (Bool × Error))
    (rows : List Row)
    (classified : List (Classified Row Error))
    (value : Key)
    (survivor : Row) : Prop where
  isAccepted : (rowsOf (fun entry => key entry.row) value (accepted classified)).map
    Classified.row = [survivor]
  othersRejected : (survivor :: (rowsOf (fun entry => key entry.row) value
    (rejected classified)).map Classified.row).Perm (rowsOf key value rows)
  passes : Passing rules survivor
  isFirst : forall other, other ∈ rows -> key other = value -> Passing rules other ->
    order survivor ≤ order other

/-- Every key with a passing row keeps one of them. -/
def KeepsSurvivor
    (key : Row -> Key)
    (order : Row -> Rank)
    (rules : Row -> List (Bool × Error))
    (rows : List Row)
    (classified : List (Classified Row Error)) : Prop :=
  forall row, row ∈ rows -> Passing rules row ->
    Exists fun survivor => OneSurvivor key order rules rows classified (key row) survivor

/-- The rows of a key are its accepted and its rejected ones. -/
theorem rowsOf_accepted_append_rejected_perm
    (rules : Row -> List (Bool × Error))
    (duplicate : Error)
    (value : Key) :
    ((rowsOf (fun entry => key entry.row) value
        (accepted (classifyRanked key order rules duplicate rows))).map Classified.row ++
      (rowsOf (fun entry => key entry.row) value
        (rejected (classifyRanked key order rules duplicate rows))).map Classified.row).Perm
      (rowsOf key value rows) := by
  have ofKey := ((accepted_append_rejected_perm
    (classifyRanked key order rules duplicate rows)).map Classified.row).trans classifyRanked_perm
  have parts := ofKey.filter fun row => decide (key row = value)
  have keyed : forall entries : List (Classified Row Error),
      rowsOf key value (entries.map Classified.row) =
        (rowsOf (fun entry => key entry.row) value entries).map Classified.row :=
    rowsOf_map (fun _ => rfl) value
  rwa [List.map_append, List.filter_append, ← rowsOf, ← rowsOf, keyed, keyed] at parts

/-- Where a key has a passing row, its first row passes. -/
def FirstPasses
    (key : Row -> Key)
    (order : Row -> Rank)
    (rules : Row -> List (Bool × Error))
    (rows : List Row) : Prop :=
  forall row, row ∈ rows -> Passing rules row ->
    forall first, leading key order (key row) rows = some first -> Passing rules first

/-- The keys with a passing row keep one exactly when their first rows pass. -/
theorem keepsSurvivor_iff :
    KeepsSurvivor key order rules rows (classifyRanked key order rules duplicate rows) ↔
      FirstPasses key order rules rows := by
  refine forall₃_congr fun row member _ => ?_
  constructor
  · rintro ⟨survivor, one⟩ first isFirst
    have isAccepted := one.isAccepted
    rw [rowsOf_accepted, isFirst] at isAccepted
    have inFilter : survivor ∈ [first].filter fun first => Passing rules first := by
      rw [show [first].filter (fun first => decide (Passing rules first)) = [survivor] from
        isAccepted]
      exact List.mem_singleton.mpr rfl
    obtain ⟨same, passes⟩ := List.mem_filter.mp inFilter
    rw [← List.mem_singleton.mp same]
    exact of_decide_eq_true passes
  · intro condition
    obtain ⟨first, isFirst⟩ := leading_isSome key order member
    have passes := condition first isFirst
    have isAccepted : (rowsOf (fun entry => key entry.row) (key row)
        (accepted (classifyRanked key order rules duplicate rows))).map Classified.row =
        [first] := by
      rw [rowsOf_accepted, isFirst]
      exact List.filter_cons_of_pos (decide_eq_true passes)
    refine ⟨first, isAccepted, ?_, passes, fun other isOther ofKey _ =>
      leading_le isFirst isOther ofKey⟩
    have parts : ((rowsOf (fun entry => key entry.row) (key row)
        (accepted (classifyRanked key order rules duplicate rows))).map Classified.row ++
      (rowsOf (fun entry => key entry.row) (key row)
        (rejected (classifyRanked key order rules duplicate rows))).map Classified.row).Perm
      (rowsOf key (key row) rows) := rowsOf_accepted_append_rejected_perm rules duplicate (key row)
    rwa [isAccepted] at parts

end Duplicates

end Table
end Library
end LakehouseOps
