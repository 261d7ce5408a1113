import LakehouseOps.Library.CanonicalJson
import LakehouseOps.Library.Fallible
import LakehouseOps.Library.Totals

/-!
# The inventory of the warehouse

All versions of the objects below `warehouse/`, with their totals. An entry of a listing has
a field of another type where its value is missing here.
-/

namespace LakehouseOps
namespace Warehouse

open Library Library.Fallible

/-- An entry of a page: a version of an object, or a delete marker. -/
structure ListedVersion where
  key : Text
  versionId : Text
  /-- `IsLatest`, if it is a boolean. -/
  isLatest : Option Bool
  /-- `Size`, if it is an integer. -/
  size : Option Int

/-- A page of `list_object_versions`. -/
structure VersionPage where
  versions : List ListedVersion
  deleteMarkers : List ListedVersion

/-- How many objects there are and how many bytes they have. -/
@[ext] structure Tally where
  objects : Nat
  bytes : Nat
  deriving DecidableEq, Repr

def Tally.zero : Tally where
  objects := 0
  bytes := 0

/-- One object more. -/
def Tally.count (tally : Tally) (size : Nat) : Tally where
  objects := tally.objects + 1
  bytes := tally.bytes + size

inductive Layout
  | metadata
  | data
  | other
  deriving DecidableEq, Repr

/-- A row of `objects`. -/
structure ObjectRow where
  key : Text
  versionId : Text
  isLatest : Bool
  bytes : Nat
  layout : Layout
  deriving DecidableEq

/-- A row of `delete_markers`. -/
structure MarkerRow where
  key : Text
  versionId : Text
  isLatest : Bool
  deriving DecidableEq

def ObjectRow.identity (row : ObjectRow) : Text × Text :=
  (row.key, row.versionId)

def MarkerRow.identity (row : MarkerRow) : Text × Text :=
  (row.key, row.versionId)

/-- The tally of some rows. -/
def tallyOf (rows : List ObjectRow) : Tally where
  objects := rows.length
  bytes := (rows.map ObjectRow.bytes).sum

/-- What the loop has gathered. -/
structure Gathered where
  objects : List ObjectRow
  markers : List MarkerRow
  seen : List (Text × Text)
  /-- `totals`: of the latest versions, and of the others. -/
  totals : Bool -> Tally
  layout : Layout -> Tally

def Gathered.empty : Gathered where
  objects := []
  markers := []
  seen := []
  totals := fun _ => .zero
  layout := fun _ => .zero

/-- The layout of a key, from the names of its directories. -/
def layoutOf (key : Text) : Layout :=
  let parts := (key.splitOn (char '/')).tail.dropLast
  if text "metadata" ∈ parts then .metadata
  else if text "data" ∈ parts then .data
  else .other

/-- The checks that every entry gets. -/
def checkEntry (gathered : Gathered) (entry : ListedVersion) : Except String Bool := do
  reject (¬(text "warehouse/" <+: entry.key) ∨ (entry.key, entry.versionId) ∈ gathered.seen)
    "out-of-scope or duplicate warehouse version"
  match entry.isLatest with
  | some latest => return latest
  | none => .error "warehouse version requires boolean IsLatest"

/-- `Size` of a version. -/
def checkSize (entry : ListedVersion) : Except String Nat :=
  match entry.size with
  | some (.ofNat size) => .ok size
  | _ => .error "warehouse version requires nonnegative integer Size"

def gatherMarker (gathered : Gathered) (entry : ListedVersion) : Except String Gathered := do
  let latest <- checkEntry gathered entry
  return { gathered with
    seen := gathered.seen ++ [(entry.key, entry.versionId)]
    markers := gathered.markers ++
      [{ key := entry.key, versionId := entry.versionId, isLatest := latest }] }

def gatherVersion (gathered : Gathered) (entry : ListedVersion) : Except String Gathered := do
  let latest <- checkEntry gathered entry
  let size <- checkSize entry
  let category := layoutOf entry.key
  return { gathered with
    seen := gathered.seen ++ [(entry.key, entry.versionId)]
    objects := gathered.objects ++
      [{ key := entry.key, versionId := entry.versionId, isLatest := latest, bytes := size,
         layout := category }]
    totals := Function.update gathered.totals latest ((gathered.totals latest).count size)
    layout := Function.update gathered.layout category ((gathered.layout category).count size) }

/-- The loop over a page: the versions, then the delete markers. -/
def gatherPage (gathered : Gathered) (page : VersionPage) : Except String Gathered := do
  let gathered <- page.versions.foldlM gatherVersion gathered
  page.deleteMarkers.foldlM gatherMarker gathered

/-- What `warehouse_inventory` returns, as far as it is read. -/
structure Inventory where
  status : String
  bucket : Text
  keyPrefix : String
  bucketVersioning : String
  totalPayloadBytes : Nat
  versions : Bool -> Tally
  layout : Layout -> Tally
  deleteMarkerCount : Nat
  objects : List ObjectRow
  deleteMarkers : List MarkerRow

/-- `warehouse_inventory` -/
def warehouseInventory
    (bucket : Text)
    (versioning : Option String)
    (pages : List VersionPage) : Except String Inventory := do
  let gathered <- pages.foldlM gatherPage .empty
  return {
    status := "observed"
    bucket := bucket
    keyPrefix := "warehouse/"
    bucketVersioning := versioning.getD "Disabled"
    totalPayloadBytes := (gathered.totals true).bytes + (gathered.totals false).bytes
    versions := gathered.totals
    layout := gathered.layout
    deleteMarkerCount := gathered.markers.length
    objects := gathered.objects.insertionSort fun left right =>
      toLex left.identity ≤ toLex right.identity
    deleteMarkers := gathered.markers.insertionSort fun left right =>
      toLex left.identity ≤ toLex right.identity }

/-! ## What is gathered -/

theorem tallyOf_append (before after : List ObjectRow) :
    tallyOf (before ++ after) =
      { objects := (tallyOf before).objects + (tallyOf after).objects
        bytes := (tallyOf before).bytes + (tallyOf after).bytes } := by
  simp only [tallyOf, List.length_append, List.map_append, List.sum_append]

/-- A tally does not depend on the order of the rows. -/
theorem tallyOf_perm {left right : List ObjectRow} (permuted : left.Perm right) :
    tallyOf left = tallyOf right :=
  Tally.ext permuted.length_eq (permuted.map ObjectRow.bytes).sum_eq

/-- What the loop has gathered from the versions and markers before. -/
structure Gathers
    (gathered : Gathered)
    (versions : List ListedVersion) : Prop where
  listed : gathered.objects.map ObjectRow.identity =
    versions.map fun entry => (entry.key, entry.versionId)
  distinct : gathered.seen.Nodup
  seen : forall row, row ∈ gathered.objects -> row.identity ∈ gathered.seen
  rows : (gathered.objects.map ObjectRow.identity).Nodup
  totals : forall latest, gathered.totals latest =
    tallyOf (gathered.objects.filter fun row => row.isLatest = latest)
  layout : forall category, gathered.layout category =
    tallyOf (gathered.objects.filter fun row => row.layout = category)

/-- Counting one row more keeps the tallies of the rows by a property. -/
theorem update_tally
    {Kind : Type}
    [DecidableEq Kind]
    {kind : ObjectRow -> Kind}
    {rows : List ObjectRow}
    {tallies : Kind -> Tally}
    (each : forall value, tallies value = tallyOf (rows.filter fun row => kind row = value))
    (row : ObjectRow)
    (value : Kind) :
    Function.update tallies (kind row) ((tallies (kind row)).count row.bytes) value =
      tallyOf ((rows ++ [row]).filter fun other => kind other = value) := by
  rw [List.filter_append, tallyOf_append]
  by_cases same : kind row = value
  · rw [← same, Function.update_self, each, List.filter_singleton, decide_eq_true rfl]
    rfl
  · rw [Function.update_of_ne (Ne.symm same), each, List.filter_singleton, decide_eq_false same]
    rfl

theorem checkEntry_new
    {gathered : Gathered}
    {entry : ListedVersion}
    {latest : Bool}
    (checked : checkEntry gathered entry = .ok latest) :
    (entry.key, entry.versionId) ∉ gathered.seen := by
  obtain ⟨_, accepted, _⟩ := bind_eq_ok_iff.mp checked
  exact (not_or.mp (reject_eq_ok_iff.mp accepted)).2

theorem gathers_empty : Gathers .empty [] where
  listed := rfl
  distinct := List.nodup_nil
  seen := List.forall_mem_nil _
  rows := List.nodup_nil
  totals := fun _ => rfl
  layout := fun _ => rfl

theorem Gathers.marker
    {gathered next : Gathered}
    {versions : List ListedVersion}
    {entry : ListedVersion}
    (gathers : Gathers gathered versions)
    (stepped : gatherMarker gathered entry = .ok next) :
    Gathers next versions := by
  obtain ⟨latest, checked, returned⟩ := bind_eq_ok_iff.mp stepped
  rw [← Except.ok.inj returned]
  exact {
    listed := gathers.listed
    distinct := List.nodup_append.mpr ⟨gathers.distinct, List.nodup_singleton _, by
      rintro identity isSeen _ isNew rfl
      exact checkEntry_new checked (List.mem_singleton.mp isNew ▸ isSeen)⟩
    seen := fun row member => List.mem_append_left _ (gathers.seen row member)
    rows := gathers.rows
    totals := gathers.totals
    layout := gathers.layout
  }

theorem Gathers.version
    {gathered next : Gathered}
    {versions : List ListedVersion}
    {entry : ListedVersion}
    (gathers : Gathers gathered versions)
    (stepped : gatherVersion gathered entry = .ok next) :
    Gathers next (versions ++ [entry]) := by
  obtain ⟨latest, checked, size, _, returned⟩ := by
    simpa only [gatherVersion, bind_eq_ok_iff] using stepped
  have isNew := checkEntry_new checked
  let row : ObjectRow :=
    { key := entry.key, versionId := entry.versionId, isLatest := latest, bytes := size
      layout := layoutOf entry.key }
  rw [← Except.ok.inj returned]
  exact {
    listed := by
      rw [List.map_append, List.map_append, gathers.listed]
      rfl
    distinct := List.nodup_append.mpr ⟨gathers.distinct, List.nodup_singleton _, by
      rintro identity isSeen _ member rfl
      exact isNew (List.mem_singleton.mp member ▸ isSeen)⟩
    seen := by
      intro row member
      rcases List.mem_append.mp member with before | last
      · exact List.mem_append_left _ (gathers.seen row before)
      · rw [List.mem_singleton.mp last]
        exact List.mem_append_right _ List.mem_cons_self
    rows := by
      rw [List.map_append]
      refine List.nodup_append.mpr ⟨gathers.rows, List.nodup_singleton _, ?_⟩
      rintro identity isBefore _ member rfl
      obtain ⟨row, isRow, same⟩ := List.mem_map.mp isBefore
      have isSeen := gathers.seen row isRow
      rw [same, List.mem_singleton.mp member] at isSeen
      exact isNew isSeen
    totals := update_tally gathers.totals row
    layout := update_tally gathers.layout row
  }

theorem Gathers.page
    {gathered next : Gathered}
    {versions : List ListedVersion}
    {page : VersionPage}
    (gathers : Gathers gathered versions)
    (stepped : gatherPage gathered page = .ok next) :
    Gathers next (versions ++ page.versions) := by
  obtain ⟨between, isBetween, isNext⟩ := bind_eq_ok_iff.mp stepped
  have afterVersions : Gathers between (versions ++ page.versions) :=
    foldlM_preserves (fun versions gathered => Gathers gathered versions)
      (fun _ _ _ _ gathers stepped => gathers.version stepped) _ gathers isBetween
  exact foldlM_preserves (fun _ gathered => Gathers gathered (versions ++ page.versions))
    (fun _ _ _ _ gathers stepped => gathers.marker stepped) [] afterVersions isNext

/-- The versions of all pages. -/
def listedVersions (pages : List VersionPage) : List ListedVersion :=
  pages.flatMap VersionPage.versions

/-- What is known of an inventory. -/
structure Inventoried
    (pages : List VersionPage)
    (inventory : Inventory) : Prop where
  /-- The objects are the versions that are listed, each of them once. -/
  listed : (inventory.objects.map ObjectRow.identity).Perm
    ((listedVersions pages).map fun entry => (entry.key, entry.versionId))
  distinct : (inventory.objects.map ObjectRow.identity).Nodup
  versions : forall latest, inventory.versions latest =
    tallyOf (inventory.objects.filter fun row => row.isLatest = latest)
  layout : forall category, inventory.layout category =
    tallyOf (inventory.objects.filter fun row => row.layout = category)
  total : inventory.totalPayloadBytes =
    (inventory.versions true).bytes + (inventory.versions false).bytes
  scope : inventory.status = "observed" ∧ inventory.keyPrefix = "warehouse/"

theorem inventoried_of_ok
    {bucket : Text}
    {versioning : Option String}
    {pages : List VersionPage}
    {inventory : Inventory}
    (observed : warehouseInventory bucket versioning pages = .ok inventory) :
    Inventoried pages inventory := by
  obtain ⟨gathered, isGathered, returned⟩ := bind_eq_ok_iff.mp observed
  have gathers : Gathers gathered (listedVersions pages) :=
    foldlM_preserves (fun pages gathered => Gathers gathered (listedVersions pages)) (fun _ _ _ _ gathers stepped => by
        rw [listedVersions, List.flatMap_append, List.flatMap_singleton]
        exact gathers.page stepped) [] gathers_empty isGathered
  have sorted := List.perm_insertionSort (fun left right : ObjectRow =>
    toLex left.identity ≤ toLex right.identity) gathered.objects
  rw [← Except.ok.inj returned]
  exact {
    listed := (sorted.map ObjectRow.identity).trans (.of_eq gathers.listed)
    distinct := (sorted.map ObjectRow.identity).nodup_iff.mpr gathers.rows
    versions := fun latest =>
      (gathers.totals latest).trans (tallyOf_perm (sorted.symm.filter _))
    layout := fun category =>
      (gathers.layout category).trans (tallyOf_perm (sorted.symm.filter _))
    total := rfl
    scope := ⟨rfl, rfl⟩
  }

end Warehouse
end LakehouseOps
