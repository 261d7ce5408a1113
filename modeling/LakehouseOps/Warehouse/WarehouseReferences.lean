import LakehouseOps.Library.Url
import LakehouseOps.Warehouse.WarehouseInventory

/-!
# The references of the warehouse

Every version of the inventory is in one group, by what the tables refer to. The groups
conserve the versions and the bytes of the inventory.
-/

namespace LakehouseOps
namespace Warehouse

open Library Library.Fallible

/-- A row of `current` or of `retained`. -/
structure FileReference where
  filePath : Text
  bytes : Int
  content : Int

/-- The references of one table. -/
structure TableReferences where
  current : List FileReference
  retained : List FileReference

/-- The size and the content of the files that are referred to, by key. -/
abbrev ReferenceMap := List (Text × (Int × Int))

/-- `_key` -/
def keyOf (validNetloc : Text -> Bool) (bucket path : Text) : Except String Text :=
  match SplitUrl.urlsplit validNetloc path with
  | none => .error "Invalid URL"
  | some uri => do
      reject (uri.scheme ∉ [text "s3", text "s3a"] ∨ uri.netloc ≠ bucket ∨ uri.query ≠ [] ∨
          uri.fragment ≠ [] ∨ char '%' ∈ uri.path ∨ ¬(text "/warehouse/" <+: uri.path))
        "reference is outside the selected plain S3 warehouse URI scope"
      return uri.path.drop 1

/-- `groups`, by name. -/
inductive Group
  | currentData
  | currentDelete
  | retainedOnlyData
  | retainedOnlyDelete
  | latestNotInSelectedFileReferences
  | s3Noncurrent
  deriving DecidableEq, Repr

def Group.all : List Group :=
  [.currentData, .currentDelete, .retainedOnlyData, .retainedOnlyDelete,
    .latestNotInSelectedFileReferences, .s3Noncurrent]

section Reconcile

variable (validNetloc : Text -> Bool)

/-- One row of a table in the map of its side. -/
def mergeFile (bucket : Text) (target : ReferenceMap) (row : FileReference) :
    Except String ReferenceMap := do
  let key <- keyOf validNetloc bucket row.filePath
  match target.lookup key with
  | some value => do
      reject (value ≠ (row.bytes, row.content)) "conflicting shared file references"
      return target
  | none => return target ++ [(key, (row.bytes, row.content))]

/-- The rows of a table: the current ones, then the retained ones. -/
def mergeTable (bucket : Text) (maps : ReferenceMap × ReferenceMap) (table : TableReferences) :
    Except String (ReferenceMap × ReferenceMap) := do
  let current <- table.current.foldlM (mergeFile validNetloc bucket) maps.1
  let retained <- table.retained.foldlM (mergeFile validNetloc bucket) maps.2
  return (current, retained)

/-- `latest`: the last row of each key stays. -/
def latestRows (objects : List ObjectRow) : List (Text × ObjectRow) :=
  dictOf ((objects.filter fun row => row.isLatest).map fun row => (row.key, row))

/-- The check of a retained file against the latest version. -/
def checkRetained (latest : List (Text × ObjectRow)) (entry : Text × (Int × Int)) :
    Except String PUnit :=
  reject ((latest.lookup entry.1).map (fun row => (row.bytes : Int)) ≠ some entry.2.1)
    "referenced file missing or size differs from latest S3 version"

/-- The checks of the references, with the maps that they build. -/
def checkReferences (inventory : Inventory) (references : List TableReferences) :
    Except String (ReferenceMap × ReferenceMap) := do
  reject (inventory.status ≠ "observed" ∨ inventory.keyPrefix ≠ "warehouse/")
    "requires a complete warehouse version inventory"
  let maps <- references.foldlM (mergeTable validNetloc inventory.bucket) ([], [])
  reject (maps.1.any (fun entry => maps.2.lookup entry.1 ≠ some entry.2) = true)
    "current files absent from retained reference union"
  maps.2.forM (checkRetained (latestRows inventory.objects))
  return maps

/-- The group of a row of the inventory. -/
def groupOf (current retained : ReferenceMap) (row : ObjectRow) : Group :=
  if row.isLatest = false then .s3Noncurrent
  else
    match current.lookup row.key, retained.lookup row.key with
    | some value, _ => if value.2 = 0 then .currentData else .currentDelete
    | none, some value => if value.2 = 0 then .retainedOnlyData else .retainedOnlyDelete
    | none, none => .latestNotInSelectedFileReferences

/-- The loop over the rows of the inventory. -/
def countGroups (current retained : ReferenceMap) (objects : List ObjectRow) : Group -> Tally :=
  objects.foldl (fun groups row =>
    Function.update groups (groupOf current retained row)
      ((groups (groupOf current retained row)).count row.bytes)) fun _ => .zero

/-- What `reconcile_references` returns, besides the references. -/
structure Reconciliation where
  groups : Group -> Tally
  totalPayloadBytes : Nat

/-- `reconcile_references` -/
def reconcileReferences (inventory : Inventory) (references : List TableReferences) :
    Except String Reconciliation := do
  let maps <- checkReferences validNetloc inventory references
  let groups := countGroups maps.1 maps.2 inventory.objects
  reject ((Group.all.map fun group => (groups group).bytes).sum ≠ inventory.totalPayloadBytes)
    "warehouse payload totals do not reconcile"
  return { groups := groups, totalPayloadBytes := inventory.totalPayloadBytes }

end Reconcile

/-! ## What a group is -/

section Groups

variable (validNetloc : Text -> Bool) (bucket : Text) (references : List TableReferences)

/-- A row refers to the file of a key. -/
def Names (row : FileReference) (key : Text) : Prop :=
  keyOf validNetloc bucket row.filePath = .ok key

/-- The file of a key is referred to as current by some table. -/
def IsCurrent (key : Text) (row : FileReference) : Prop :=
  (Exists fun table => table ∈ references ∧ row ∈ table.current) ∧ Names validNetloc bucket row key

def IsRetained (key : Text) (row : FileReference) : Prop :=
  (Exists fun table => table ∈ references ∧ row ∈ table.retained) ∧ Names validNetloc bucket row key

/-- The rows of a group, by the references: one that is current is not counted as retained. -/
def InGroup (row : ObjectRow) : Group -> Prop
  | .s3Noncurrent => row.isLatest = false
  | .currentData => row.isLatest = true ∧
      Exists fun file => IsCurrent validNetloc bucket references row.key file ∧ file.content = 0
  | .currentDelete => row.isLatest = true ∧
      Exists fun file => IsCurrent validNetloc bucket references row.key file ∧ file.content ≠ 0
  | .retainedOnlyData => row.isLatest = true ∧
      (forall file, ¬IsCurrent validNetloc bucket references row.key file) ∧
      Exists fun file => IsRetained validNetloc bucket references row.key file ∧ file.content = 0
  | .retainedOnlyDelete => row.isLatest = true ∧
      (forall file, ¬IsCurrent validNetloc bucket references row.key file) ∧
      Exists fun file => IsRetained validNetloc bucket references row.key file ∧ file.content ≠ 0
  | .latestNotInSelectedFileReferences => row.isLatest = true ∧
      (forall file, ¬IsCurrent validNetloc bucket references row.key file) ∧
      forall file, ¬IsRetained validNetloc bucket references row.key file

end Groups

/-! ## The maps -/

section Maps

variable {validNetloc : Text -> Bool} {bucket : Text} {references : List TableReferences}

/-- A map has the files of the rows that were merged into it. -/
structure Merged
    (validNetloc : Text -> Bool)
    (bucket : Text)
    (files : List FileReference)
    (map : ReferenceMap) : Prop where
  lookup : forall key value, map.lookup key = some value ↔
    Exists fun file => file ∈ files ∧ Names validNetloc bucket file key ∧
      value = (file.bytes, file.content)
  named : forall file, file ∈ files -> Exists fun key => Names validNetloc bucket file key

theorem Names.unique
    {row : FileReference}
    {key other : Text}
    (isKey : Names validNetloc bucket row key)
    (isOther : Names validNetloc bucket row other) :
    key = other :=
  Except.ok.inj (isKey.symm.trans isOther)

theorem lookup_concat (map : ReferenceMap) (key other : Text) (value : Int × Int) :
    (map ++ [(key, value)]).lookup other =
      (map.lookup other).or (if other = key then some value else none) := by
  rw [List.lookup_append, List.lookup_cons]
  by_cases same : other = key
  · rw [if_pos same, beq_iff_eq.mpr same]
  · rw [if_neg same, beq_eq_false_iff_ne.mpr same]
    rfl

theorem Merged.file
    {files : List FileReference}
    {map next : ReferenceMap}
    {row : FileReference}
    (merged : Merged validNetloc bucket files map)
    (stepped : mergeFile validNetloc bucket map row = .ok next) :
    Merged validNetloc bucket (files ++ [row]) next := by
  obtain ⟨key, isKey, stepped⟩ := bind_eq_ok_iff.mp stepped
  have split : forall other value,
      (Exists fun file => file ∈ files ++ [row] ∧ Names validNetloc bucket file other ∧
        value = (file.bytes, file.content)) ↔
      map.lookup other = some value ∨ (other = key ∧ value = (row.bytes, row.content)) := by
    intro other value
    rw [merged.lookup other value]
    constructor
    · rintro ⟨file, member, names, same⟩
      rcases List.mem_append.mp member with before | last
      · exact .inl ⟨file, before, names, same⟩
      · rw [List.mem_singleton.mp last] at names same
        exact .inr ⟨names.unique isKey, same⟩
    · rintro (⟨file, member, names, same⟩ | ⟨rfl, same⟩)
      · exact ⟨file, List.mem_append_left _ member, names, same⟩
      · exact ⟨row, List.mem_append_right _ List.mem_cons_self, isKey, same⟩
  refine ⟨?_, fun file member => ?_⟩
  rotate_left
  · rcases List.mem_append.mp member with before | last
    · exact merged.named file before
    · exact ⟨key, List.mem_singleton.mp last ▸ isKey⟩
  intro other value
  rw [split]
  cases found : map.lookup key with
  | some previous =>
      rw [found] at stepped
      obtain ⟨_, accepted, returned⟩ := bind_eq_ok_iff.mp stepped
      have same : previous = (row.bytes, row.content) := not_not.mp (reject_eq_ok_iff.mp accepted)
      rw [← Except.ok.inj returned]
      constructor
      · exact Or.inl
      · rintro (known | ⟨rfl, rfl⟩)
        · exact known
        · rw [found, same]
  | none =>
      rw [found] at stepped
      rw [← Except.ok.inj stepped, lookup_concat, Option.or_eq_some_iff]
      constructor
      · rintro (known | ⟨_, isRow⟩)
        · exact .inl known
        · by_cases same : other = key
          · rw [if_pos same] at isRow
            exact .inr ⟨same, (Option.some.inj isRow).symm⟩
          · rw [if_neg same] at isRow
            exact absurd isRow.symm (Option.some_ne_none _)
      · rintro (known | ⟨rfl, rfl⟩)
        · exact .inl known
        · exact .inr ⟨found, if_pos rfl⟩

theorem merged_nil : Merged validNetloc bucket [] [] := by
  refine ⟨fun key value => ?_, List.forall_mem_nil _⟩
  constructor
  · intro found
    exact absurd found.symm (Option.some_ne_none _)
  · rintro ⟨_, member, _⟩
    exact absurd member List.not_mem_nil

theorem Merged.files
    {before files : List FileReference}
    {map next : ReferenceMap}
    (merged : Merged validNetloc bucket before map)
    (stepped : files.foldlM (mergeFile validNetloc bucket) map = .ok next) :
    Merged validNetloc bucket (before ++ files) next :=
  foldlM_preserves (Merged validNetloc bucket) (fun _ _ _ _ merged stepped => merged.file stepped)
    before merged stepped

/-- Both maps have the files of the rows of all tables. -/
theorem merged_references
    {maps : ReferenceMap × ReferenceMap}
    (folded : references.foldlM (mergeTable validNetloc bucket) ([], []) = .ok maps) :
    Merged validNetloc bucket (references.flatMap TableReferences.current) maps.1 ∧
      Merged validNetloc bucket (references.flatMap TableReferences.retained) maps.2 := by
  refine foldlM_preserves (fun tables maps =>
    Merged validNetloc bucket (tables.flatMap TableReferences.current) maps.1 ∧
      Merged validNetloc bucket (tables.flatMap TableReferences.retained) maps.2) ?_ []
    ⟨merged_nil, merged_nil⟩ folded
  rintro tables maps table next ⟨current, retained⟩ stepped
  obtain ⟨isCurrent, mergesCurrent, stepped⟩ := bind_eq_ok_iff.mp stepped
  obtain ⟨isRetained, mergesRetained, returned⟩ := bind_eq_ok_iff.mp stepped
  rw [← Except.ok.inj returned, List.flatMap_append, List.flatMap_append, List.flatMap_singleton,
    List.flatMap_singleton]
  exact ⟨current.files mergesCurrent, retained.files mergesRetained⟩

theorem lookup_current_iff
    {map : ReferenceMap}
    (merged : Merged validNetloc bucket (references.flatMap TableReferences.current) map)
    {key : Text}
    {value : Int × Int} :
    map.lookup key = some value ↔
      Exists fun file => IsCurrent validNetloc bucket references key file ∧
        value = (file.bytes, file.content) := by
  rw [merged.lookup key value]
  refine exists_congr fun file => ?_
  rw [List.mem_flatMap, ← and_assoc]
  rfl

theorem lookup_retained_iff
    {map : ReferenceMap}
    (merged : Merged validNetloc bucket (references.flatMap TableReferences.retained) map)
    {key : Text}
    {value : Int × Int} :
    map.lookup key = some value ↔
      Exists fun file => IsRetained validNetloc bucket references key file ∧
        value = (file.bytes, file.content) := by
  rw [merged.lookup key value]
  refine exists_congr fun file => ?_
  rw [List.mem_flatMap, ← and_assoc]
  rfl

end Maps

/-! ## The groups -/

section Partition

variable {validNetloc : Text -> Bool} {bucket : Text} {references : List TableReferences}
  {current retained : ReferenceMap}

theorem lookup_current_none
    (merged : Merged validNetloc bucket (references.flatMap TableReferences.current) current)
    {key : Text} :
    current.lookup key = none ↔ forall file, ¬IsCurrent validNetloc bucket references key file := by
  rw [Option.eq_none_iff_forall_ne_some]
  constructor
  · intro absent file isCurrent
    exact absent _ ((lookup_current_iff merged).mpr ⟨file, isCurrent, rfl⟩)
  · intro none value found
    obtain ⟨file, isCurrent, _⟩ := (lookup_current_iff merged).mp found
    exact none file isCurrent

theorem lookup_retained_none
    (merged : Merged validNetloc bucket (references.flatMap TableReferences.retained) retained)
    {key : Text} :
    retained.lookup key = none ↔
      forall file, ¬IsRetained validNetloc bucket references key file := by
  rw [Option.eq_none_iff_forall_ne_some]
  constructor
  · intro absent file isRetained
    exact absent _ ((lookup_retained_iff merged).mpr ⟨file, isRetained, rfl⟩)
  · intro none value found
    obtain ⟨file, isRetained, _⟩ := (lookup_retained_iff merged).mp found
    exact none file isRetained

theorem inGroup_groupOf
    (isCurrent : Merged validNetloc bucket (references.flatMap TableReferences.current) current)
    (isRetained : Merged validNetloc bucket (references.flatMap TableReferences.retained) retained)
    (row : ObjectRow) :
    InGroup validNetloc bucket references row (groupOf current retained row) := by
  unfold groupOf
  split
  · next noncurrent => exact noncurrent
  · next notNoncurrent =>
      have latest : row.isLatest = true := Bool.eq_true_of_not_eq_false notNoncurrent
      split
      · next value _ found =>
          obtain ⟨file, current, rfl⟩ := (lookup_current_iff isCurrent).mp found
          split
          · next data => exact ⟨latest, file, current, data⟩
          · next delete => exact ⟨latest, file, current, delete⟩
      · next value absent found =>
          have notCurrent := (lookup_current_none isCurrent).mp absent
          obtain ⟨file, retained, rfl⟩ := (lookup_retained_iff isRetained).mp found
          split
          · next data => exact ⟨latest, notCurrent, file, retained, data⟩
          · next delete => exact ⟨latest, notCurrent, file, retained, delete⟩
      · next absent alsoAbsent =>
          exact ⟨latest, (lookup_current_none isCurrent).mp absent,
            (lookup_retained_none isRetained).mp alsoAbsent⟩

/-- A row is in no group but the one it is counted in. -/
theorem groupOf_of_inGroup
    (isCurrent : Merged validNetloc bucket (references.flatMap TableReferences.current) current)
    (isRetained : Merged validNetloc bucket (references.flatMap TableReferences.retained) retained)
    {row : ObjectRow}
    {group : Group}
    (inGroup : InGroup validNetloc bucket references row group) :
    groupOf current retained row = group := by
  have currentFile : forall file, IsCurrent validNetloc bucket references row.key file ->
      current.lookup row.key = some (file.bytes, file.content) :=
    fun file holds => (lookup_current_iff isCurrent).mpr ⟨file, holds, rfl⟩
  have retainedFile : forall file, IsRetained validNetloc bucket references row.key file ->
      retained.lookup row.key = some (file.bytes, file.content) :=
    fun file holds => (lookup_retained_iff isRetained).mpr ⟨file, holds, rfl⟩
  cases group with
  | s3Noncurrent => exact if_pos inGroup
  | currentData =>
      obtain ⟨latest, file, holds, data⟩ := inGroup
      rw [groupOf, if_neg (by rw [latest]; exact Bool.noConfusion), currentFile file holds]
      exact if_pos data
  | currentDelete =>
      obtain ⟨latest, file, holds, delete⟩ := inGroup
      rw [groupOf, if_neg (by rw [latest]; exact Bool.noConfusion), currentFile file holds]
      exact if_neg delete
  | retainedOnlyData =>
      obtain ⟨latest, notCurrent, file, holds, data⟩ := inGroup
      rw [groupOf, if_neg (by rw [latest]; exact Bool.noConfusion),
        (lookup_current_none isCurrent).mpr notCurrent, retainedFile file holds]
      exact if_pos data
  | retainedOnlyDelete =>
      obtain ⟨latest, notCurrent, file, holds, delete⟩ := inGroup
      rw [groupOf, if_neg (by rw [latest]; exact Bool.noConfusion),
        (lookup_current_none isCurrent).mpr notCurrent, retainedFile file holds]
      exact if_neg delete
  | latestNotInSelectedFileReferences =>
      obtain ⟨latest, notCurrent, notRetained⟩ := inGroup
      rw [groupOf, if_neg (by rw [latest]; exact Bool.noConfusion),
        (lookup_current_none isCurrent).mpr notCurrent,
        (lookup_retained_none isRetained).mpr notRetained]

/-- The loop counts each row in its group. -/
theorem countGroups_eq (current retained : ReferenceMap) (objects : List ObjectRow)
    (group : Group) :
    countGroups current retained objects group =
      tallyOf (objects.filter fun row => groupOf current retained row = group) := by
  have counts : forall (before after : List ObjectRow) (groups : Group -> Tally),
      (forall group, groups group =
        tallyOf (before.filter fun row => groupOf current retained row = group)) ->
      forall group, after.foldl (fun groups row =>
          Function.update groups (groupOf current retained row)
            ((groups (groupOf current retained row)).count row.bytes)) groups group =
        tallyOf ((before ++ after).filter fun row => groupOf current retained row = group) := by
    intro before after
    induction after generalizing before with
    | nil =>
        intro groups each group
        rw [List.append_nil]
        exact each group
    | cons row after inductionHypothesis =>
        intro groups each group
        rw [List.append_cons]
        exact inductionHypothesis (before ++ [row]) _ (update_tally each row) group
  exact counts [] objects _ (fun _ => rfl) group

theorem Group.mem_all (group : Group) : group ∈ Group.all := by
  cases group <;> decide

/-- What an amount of each row adds up to is the same by groups and in whole. -/
theorem sum_groups
    (current retained : ReferenceMap)
    (amount : ObjectRow -> Nat)
    (objects : List ObjectRow) :
    (Group.all.map fun group => ((objects.filter fun row =>
        groupOf current retained row = group).map amount).sum).sum = (objects.map amount).sum :=
  Table.sum_rowsOf amount (by decide) fun row _ => Group.mem_all _

end Partition

/-! ## Reconciliation -/

section Reconciled

variable {validNetloc : Text -> Bool} {bucket : Text} {references : List TableReferences}
  {versioning : Option String} {pages : List VersionPage} {inventory : Inventory}
  {maps : ReferenceMap × ReferenceMap}

theorem mem_latestRows
    {objects : List ObjectRow}
    {key : Text}
    {row : ObjectRow}
    (found : (latestRows objects).lookup key = some row) :
    row ∈ objects ∧ row.isLatest = true ∧ row.key = key := by
  obtain ⟨other, isRow, same⟩ := List.mem_map.mp (mem_of_mem_dictOf (mem_of_lookup found))
  obtain ⟨rfl, rfl⟩ := Prod.mk.inj same
  obtain ⟨member, latest⟩ := List.mem_filter.mp isRow
  exact ⟨member, latest, rfl⟩

theorem merged_of_checked
    (checked : checkReferences validNetloc inventory references = .ok maps) :
    Merged validNetloc inventory.bucket (references.flatMap TableReferences.current) maps.1 ∧
      Merged validNetloc inventory.bucket (references.flatMap TableReferences.retained) maps.2 := by
  simp only [checkReferences, bind_eq_ok_iff] at checked
  obtain ⟨_, _, merged, isMerged, _, _, _, _, returned⟩ := checked
  rw [← Except.ok.inj returned]
  exact merged_references isMerged

/-- A file that is retained is a latest version of its size. -/
theorem retained_accounted
    (checked : checkReferences validNetloc inventory references = .ok maps)
    {table : TableReferences}
    {file : FileReference}
    (isTable : table ∈ references)
    (isFile : file ∈ table.retained) :
    Exists fun row => row ∈ inventory.objects ∧ row.isLatest = true ∧
      Names validNetloc inventory.bucket file row.key ∧ (row.bytes : Int) = file.bytes := by
  simp only [checkReferences, bind_eq_ok_iff] at checked
  obtain ⟨_, _, merged, isMerged, _, _, _, sizes, returned⟩ := checked
  have isRetained := (merged_references isMerged).2
  have isMember : file ∈ references.flatMap TableReferences.retained :=
    List.mem_flatMap.mpr ⟨table, isTable, isFile⟩
  obtain ⟨key, isKey⟩ := isRetained.named file isMember
  have found : merged.2.lookup key = some (file.bytes, file.content) :=
    (isRetained.lookup key _).mpr ⟨file, isMember, isKey, rfl⟩
  have sameSize := not_not.mp (reject_eq_ok_iff.mp
    (forM_eq_ok_iff.mp sizes _ (mem_of_lookup found)))
  obtain ⟨row, isRow, size⟩ := Option.map_eq_some_iff.mp sameSize
  obtain ⟨member, latest, rfl⟩ := mem_latestRows isRow
  exact ⟨row, member, latest, isKey, size⟩

/-- What a reconciliation says of the versions of an inventory. -/
structure Conserved
    (validNetloc : Text -> Bool)
    (pages : List VersionPage)
    (inventory : Inventory)
    (references : List TableReferences)
    (result : Reconciliation) : Prop where
  /-- The objects are the listed versions, each of them once. -/
  listed : (inventory.objects.map ObjectRow.identity).Perm
      ((listedVersions pages).map fun entry => (entry.key, entry.versionId)) ∧
    (inventory.objects.map ObjectRow.identity).Nodup
  partition : forall row, row ∈ inventory.objects ->
    ExistsUnique (InGroup validNetloc inventory.bucket references row)
  /-- A group has the versions that belong to it, each of them once, and their bytes. -/
  groups : forall group, Exists fun rows =>
    rows.Sublist inventory.objects ∧
      (forall row, row ∈ rows ↔ row ∈ inventory.objects ∧
        InGroup validNetloc inventory.bucket references row group) ∧
      result.groups group = tallyOf rows
  retained : forall table file, table ∈ references -> file ∈ table.retained ->
    Exists fun row => row ∈ inventory.objects ∧ row.isLatest = true ∧
      Names validNetloc inventory.bucket file row.key ∧ (row.bytes : Int) = file.bytes
  versions : (Group.all.map fun group => (result.groups group).objects).sum =
    (inventory.versions true).objects + (inventory.versions false).objects
  bytes : (Group.all.map fun group => (result.groups group).bytes).sum =
      (inventory.versions true).bytes + (inventory.versions false).bytes ∧
    result.totalPayloadBytes = inventory.totalPayloadBytes ∧
    inventory.totalPayloadBytes =
      (inventory.versions true).bytes + (inventory.versions false).bytes

/-- The latest versions and the others are all versions. -/
theorem tally_versions (objects : List ObjectRow) :
    tallyOf objects =
      { objects := (tallyOf (objects.filter fun row => row.isLatest = true)).objects +
          (tallyOf (objects.filter fun row => row.isLatest = false)).objects
        bytes := (tallyOf (objects.filter fun row => row.isLatest = true)).bytes +
          (tallyOf (objects.filter fun row => row.isLatest = false)).bytes } := by
  rw [← tallyOf_append]
  have split := List.filter_append_perm (fun row : ObjectRow => decide (row.isLatest = true)) objects
  refine tallyOf_perm (split.symm.trans (List.Perm.append_left _ (.of_eq ?_)))
  refine List.filter_congr fun row _ => ?_
  cases row.isLatest <;> rfl

/-- References that pass their checks reconcile with the inventory, and every version is
counted once. -/
theorem references_reconcile
    (observed : warehouseInventory bucket versioning pages = .ok inventory)
    (checked : checkReferences validNetloc inventory references = .ok maps) :
    Exists fun result =>
      reconcileReferences validNetloc inventory references = .ok result ∧
        Conserved validNetloc pages inventory references result := by
  have inventoried := inventoried_of_ok observed
  obtain ⟨isCurrent, isRetained⟩ := merged_of_checked checked
  have counted := countGroups_eq maps.1 maps.2 inventory.objects
  have objects : (Group.all.map fun group =>
      (countGroups maps.1 maps.2 inventory.objects group).objects).sum =
        (tallyOf inventory.objects).objects := by
    simp only [counted]
    have ones := sum_groups maps.1 maps.2 (fun _ => 1) inventory.objects
    simp only [List.map_const', List.sum_replicate, smul_eq_mul, mul_one] at ones
    exact ones
  have bytes : (Group.all.map fun group =>
      (countGroups maps.1 maps.2 inventory.objects group).bytes).sum =
        (tallyOf inventory.objects).bytes := by
    simp only [counted]
    exact sum_groups maps.1 maps.2 ObjectRow.bytes inventory.objects
  have split := tally_versions inventory.objects
  rw [← inventoried.versions, ← inventoried.versions] at split
  have total : (Group.all.map fun group =>
      (countGroups maps.1 maps.2 inventory.objects group).bytes).sum =
        inventory.totalPayloadBytes := by
    rw [bytes, split, inventoried.total]
  refine ⟨{ groups := countGroups maps.1 maps.2 inventory.objects
            totalPayloadBytes := inventory.totalPayloadBytes }, ?_, ?_⟩
  · rw [reconcileReferences, checked, ok_bind]
    exact reject_bind_of_not (not_not.mpr total)
  · exact {
      listed := ⟨inventoried.listed, inventoried.distinct⟩
      partition := fun row _ => ⟨_, inGroup_groupOf isCurrent isRetained row,
        fun group inGroup => (groupOf_of_inGroup isCurrent isRetained inGroup).symm⟩
      groups := fun group => ⟨_, List.filter_sublist, fun row => by
        rw [List.mem_filter, decide_eq_true_eq]
        refine and_congr_right fun _ => ?_
        constructor
        · rintro rfl
          exact inGroup_groupOf isCurrent isRetained row
        · exact groupOf_of_inGroup isCurrent isRetained, counted group⟩
      retained := fun table file isTable isFile => retained_accounted checked isTable isFile
      versions := by rw [objects, split]
      bytes := ⟨by rw [bytes, split], rfl, inventoried.total⟩
    }

end Reconciled

/-- Two versions of one file. -/
def samplePages : List VersionPage :=
  [{ versions :=
      [{ key := text "warehouse/t/data/f", versionId := text "1", isLatest := some false
         size := some 5 },
        { key := text "warehouse/t/data/f", versionId := text "2", isLatest := some true
          size := some 7 }]
     deleteMarkers := [] }]

/-- A table that refers to the file, as current and as retained. -/
def sampleReferences : List TableReferences :=
  [{ current := [{ filePath := text "s3://lakehouse/warehouse/t/data/f", bytes := 7, content := 0 }]
     retained :=
      [{ filePath := text "s3a://lakehouse/warehouse/t/data/f", bytes := 7, content := 0 }] }]

theorem sample_references_reconcile :
    Exists fun inventory => Exists fun result =>
      warehouseInventory (text "lakehouse") none samplePages = .ok inventory ∧
        reconcileReferences (fun _ => true) inventory sampleReferences = .ok result ∧
        Conserved (fun _ => true) samplePages inventory sampleReferences result := by
  have checks : (warehouseInventory (text "lakehouse") none samplePages >>= fun inventory =>
      checkReferences (fun _ => true) inventory sampleReferences).toBool = true := by
    decide +kernel
  cases found : warehouseInventory (text "lakehouse") none samplePages >>= fun inventory =>
      checkReferences (fun _ => true) inventory sampleReferences with
  | error problem =>
      rw [found] at checks
      exact absurd checks Bool.false_ne_true
  | ok maps =>
      obtain ⟨inventory, observed, checked⟩ := bind_eq_ok_iff.mp found
      obtain ⟨result, reconciled, conserved⟩ := references_reconcile observed checked
      exact ⟨inventory, result, observed, reconciled, conserved⟩

end Warehouse
end LakehouseOps
