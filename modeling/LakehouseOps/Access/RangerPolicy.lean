import Mathlib.Data.List.Dedup
import Mathlib.Data.List.Sort
import Mathlib.Data.String.Basic
import LakehouseOps.Access.RoleModel

/-!
# Ranger policies

The compiler from the role model to the policies of a Ranger service. Policies on
the same resources are merged into one. A policy is the object that is sent to the
service and listed by it; a key that may be absent is an option.
-/

namespace LakehouseOps
namespace Access

/-! ## Policies -/

structure Resource where
  values : List String
  isExcludes : Option Bool := none
  isRecursive : Option Bool := none
  deriving DecidableEq

/-- An object of resources, its entries in the order of their keys. -/
abbrev Resources := List (String × Resource)

structure ItemAccess where
  type : String
  isAllowed : Bool
  deriving DecidableEq

/-- An item of a policy. The keys the compiler never writes are kept as text. -/
structure PolicyItem where
  users : List String
  accesses : List ItemAccess
  delegateAdmin : Bool
  filterExpr : Option String := none
  dataMaskType : Option String := none
  otherKeys : List (String × String) := []
  deriving DecidableEq

structure Policy where
  service : Option String := none
  name : String
  description : Option String := none
  policyType : Option Nat := none
  isEnabled : Option Bool := none
  isAuditEnabled : Option Bool := none
  resources : Option Resources := none
  policyItems : Option (List PolicyItem) := none
  denyPolicyItems : Option (List PolicyItem) := none
  allowExceptions : Option (List PolicyItem) := none
  denyExceptions : Option (List PolicyItem) := none
  dataMaskPolicyItems : Option (List PolicyItem) := none
  rowFilterPolicyItems : Option (List PolicyItem) := none
  isDenyAllElse : Option Bool := none
  otherKeys : List (String × String) := []
  deriving DecidableEq

/-- `MANAGED_DESCRIPTION` -/
def managedDescription : String :=
  "Managed by Lakehouse Ops role-policy schema 1.0"

/-- `sorted` -/
def sorted (values : List String) : List String :=
  values.insertionSort (· ≤ ·)

/-- `sorted(set(..))` -/
def sortedSet (values : List String) : List String :=
  sorted values.dedup

/-- `_resource` -/
def resource (values : List String) : Resource :=
  { values, isExcludes := some false, isRecursive := some false }

/-- What the three kinds of policies have in common. -/
def managedPolicy
    (service name : String)
    (policyType : Nat)
    (resources : Resources) : Policy where
  service := some service
  name := name
  description := some managedDescription
  policyType := some policyType
  isEnabled := some true
  isAuditEnabled := some true
  resources := some resources
  policyItems := some []
  isDenyAllElse := some false

/-- The item of an access policy. -/
def accessItem (users accesses : List String) : PolicyItem where
  users := sorted users
  accesses := (sortedSet accesses).map fun access => { type := access, isAllowed := true }
  delegateAdmin := false

/-- `_policy` -/
def policy
    (service name : String)
    (resources : Resources)
    (users accesses : List String) : Policy :=
  { managedPolicy service name 0 resources with
    policyItems := some [accessItem users accesses] }

/-- `_row_filter_policy` -/
def rowFilterPolicy
    (service name : String)
    (resources : Resources)
    (users : List String)
    (filterExpression : String) : Policy :=
  { managedPolicy service name 2 resources with
    rowFilterPolicyItems := some
      [{ accessItem users ["select"] with filterExpr := some filterExpression }] }

/-- `_data_mask_policy` -/
def dataMaskPolicy
    (service name : String)
    (resources : Resources)
    (users : List String)
    (maskType : String) : Policy :=
  { managedPolicy service name 1 resources with
    dataMaskPolicyItems := some
      [{ accessItem users ["select"] with dataMaskType := some maskType }] }

/-! ## The compiler -/

/-- The accesses that the privileges map to. -/
def accessMapping : String -> Option String
  | "SELECT" => some "select"
  | "INSERT" => some "insert"
  | "DELETE" => some "delete"
  | "UPDATE" => some "alter"
  | "GRANT_SELECT" => some "grant"
  | _ => none

/-- `_table_accesses` -/
def tableAccesses (privileges : List String) : List String :=
  if "OWNERSHIP" ∈ privileges then ["all"]
  else sortedSet (privileges.filterMap accessMapping)

/-- The name of the policy of a numbered grant. -/
def grantName (role kind : String) (index : Nat) : String :=
  "lakehouse-ops-" ++ role ++ "-" ++ kind ++ "-" ++ toString index

def catalogPolicy (service : String) (role : BoundRole) (grant : CatalogGrant) (index : Nat) :
    Policy :=
  policy service (grantName role.name "catalog" index)
    [("catalog", resource grant.catalogs)]
    role.users [if grant.access = "all" then "all" else "select"]

def schemaPolicy (service : String) (role : BoundRole) (grant : SchemaGrant) (index : Nat) :
    Policy :=
  policy service (grantName role.name "schema" index)
    [("catalog", resource grant.catalogs), ("schema", resource grant.schemas)]
    role.users [if grant.owner then "all" else "select"]

def tablePolicy (service : String) (role : BoundRole) (grant : TableGrant) (index : Nat) :
    Policy :=
  policy service (grantName role.name "table" index)
    [("catalog", resource grant.catalogs), ("column", resource ["*"]),
      ("schema", resource grant.schemas), ("table", resource grant.tables)]
    role.users (tableAccesses grant.privileges)

def roleRowFilterPolicy
    (service : String) (role : BoundRole) (grant : RowFilterGrant) (index : Nat) : Policy :=
  rowFilterPolicy service (grantName role.name "row-filter" index)
    [("catalog", resource grant.catalogs), ("schema", resource grant.schemas),
      ("table", resource grant.tables)]
    role.users grant.filter

def roleColumnMaskPolicy
    (service : String) (role : BoundRole) (grant : ColumnMaskGrant) (index : Nat) : Policy :=
  dataMaskPolicy service (grantName role.name "column-mask" index)
    [("catalog", resource grant.catalogs), ("column", resource grant.columns),
      ("schema", resource grant.schemas), ("table", resource grant.tables)]
    role.users grant.maskType

def queryPolicies (service : String) (role : BoundRole) : List Policy :=
  if "execute" ∈ role.permissions.queries.getD [] then
    [policy service ("lakehouse-ops-" ++ role.name ++ "-query")
      [("queryid", resource ["*"])] role.users ["execute"]]
  else []

def systemInformationPolicies (service : String) (role : BoundRole) : List Policy :=
  match role.permissions.systemInformation.getD [] with
  | [] => []
  | access :: accesses =>
      [policy service ("lakehouse-ops-" ++ role.name ++ "-sysinfo")
        [("sysinfo", resource ["*"])] role.users
        ((access :: accesses).map fun access => access ++ "_sysinfo")]

/-- The policies on access of one role. -/
def roleAccessPolicies (service : String) (role : BoundRole) : List Policy :=
  ((role.permissions.catalogs.zipIdx 1).map fun entry =>
      catalogPolicy service role entry.1 entry.2) ++
    ((role.permissions.schemas.zipIdx 1).map fun entry =>
      schemaPolicy service role entry.1 entry.2) ++
    (role.permissions.tables.zipIdx 1).map fun entry =>
      tablePolicy service role entry.1 entry.2

/-- The policies of one role that change what a query returns. -/
def roleTransformations (service : String) (role : BoundRole) : List Policy :=
  ((role.permissions.rowFilters.zipIdx 1).map fun entry =>
      roleRowFilterPolicy service role entry.1 entry.2) ++
    (role.permissions.columnMasks.zipIdx 1).map fun entry =>
      roleColumnMaskPolicy service role entry.1 entry.2

/-- The policies of one role. -/
def rolePolicies (service : String) (role : BoundRole) : List Policy :=
  roleAccessPolicies service role ++ roleTransformations service role ++
    queryPolicies service role ++ systemInformationPolicies service role

/-- The policies for all users. -/
def commonPolicies (service : String) (model : RoleModel) : List Policy :=
  let allUsers := sortedSet (model.boundRoles.flatMap BoundRole.users)
  (if "execute" ∈ model.defaults.queries then
    [policy service "lakehouse-ops-default-query-execution"
      [("queryid", resource ["*"])] allUsers ["execute"]]
  else []) ++
    [policy service "lakehouse-ops-self-impersonation"
      [("trinouser", resource ["\x7bUSER\x7d"])] allUsers ["impersonate"]]

/-- The policies before those on the same resources are merged. -/
def unmergedPolicies (service : String) (model : RoleModel) : List Policy :=
  ((model.boundRoles.filter fun role => role.users ≠ []).flatMap (rolePolicies service)) ++
    commonPolicies service model

/-! ### Merging -/

/-- `_merged_policy_name`. The digest is the start of the hash of the resources. -/
def mergedPolicyName (digest : Resources -> String) (resources : Resources) : String :=
  let keys := resources.map Prod.fst
  if keys = ["queryid"] then "lakehouse-ops-query-execution"
  else if keys = ["sysinfo"] then "lakehouse-ops-system-information"
  else if keys = ["trinouser"] then "lakehouse-ops-self-impersonation"
  else "lakehouse-ops-" ++ String.intercalate "-" keys ++ "-" ++ digest resources

/-- The accesses of an item, by which the items of a merged policy are grouped. -/
def PolicyItem.accessKey (item : PolicyItem) : List String :=
  sorted (item.accesses.map ItemAccess.type)

/-- The first items of some policies. An access policy has one item. -/
def firstItems (matching : List Policy) : List PolicyItem :=
  matching.filterMap fun policy => (policy.policyItems.getD []).head?

/-- The items of a merged policy: one for each set of accesses, for all its users. -/
def mergedItems (matching : List Policy) : List PolicyItem :=
  let items := firstItems matching
  ((items.map PolicyItem.accessKey).dedup.insertionSort (· ≤ ·)).map fun accesses =>
    { users := sortedSet
        ((items.filter fun item => item.accessKey = accesses).flatMap PolicyItem.users)
      accesses := accesses.map fun access => { type := access, isAllowed := true }
      delegateAdmin := false }

/-- The merged policy of some policies on the same resources, the first of which is
the template. -/
def mergedPolicy
    (digest : Resources -> String)
    (resources : Resources)
    (template : Policy)
    (matching : List Policy) : Policy :=
  { template with
    name := mergedPolicyName digest resources
    policyItems := some (mergedItems matching) }

/-- The policies on the given resources. -/
def policiesOn (resources : Resources) (policies : List Policy) : List Policy :=
  policies.filter fun policy => policy.resources = some resources

/-- Sort by name; policies of one name keep their order. -/
def sortedByName (policies : List Policy) : List Policy :=
  policies.insertionSort fun left right => left.name ≤ right.name

/-- `_merge_matching_resources`, where the groups are in the order in which their
resources occur first. -/
def mergeMatchingResources (digest : Resources -> String) (policies : List Policy) :
    List Policy :=
  sortedByName <|
    (policies.filterMap Policy.resources).eraseDups.filterMap fun resources =>
      (policiesOn resources policies).head?.map fun template =>
        mergedPolicy digest resources template (policiesOn resources policies)

def accessPolicies (service : String) (model : RoleModel) : List Policy :=
  (unmergedPolicies service model).filter fun policy => policy.policyType = some 0

def transformationPolicies (service : String) (model : RoleModel) : List Policy :=
  (unmergedPolicies service model).filter fun policy =>
    policy.policyType = some 1 ∨ policy.policyType = some 2

/-- `compile_ranger_policies` -/
def compileRangerPolicies
    (digest : Resources -> String)
    (model : RoleModel)
    (service : String) : List Policy :=
  sortedByName <|
    mergeMatchingResources digest (accessPolicies service model) ++
      transformationPolicies service model

/-! ## What the compiler writes -/

@[simp] theorem mem_sorted {values : List String} {value : String} :
    value ∈ sorted values ↔ value ∈ values :=
  List.mem_insertionSort _

@[simp] theorem mem_sortedSet {values : List String} {value : String} :
    value ∈ sortedSet values ↔ value ∈ values := by
  rw [sortedSet, mem_sorted, List.mem_dedup]

@[simp] theorem mem_sortedByName {policies : List Policy} {policy : Policy} :
    policy ∈ sortedByName policies ↔ policy ∈ policies :=
  List.mem_insertionSort _

@[simp] theorem mem_policiesOn
    {resources : Resources}
    {policies : List Policy}
    {policy : Policy} :
    policy ∈ policiesOn resources policies ↔
      policy ∈ policies ∧ policy.resources = some resources := by
  simp [policiesOn]

/-- The merged policies: one for each resources that some policy is on. -/
theorem mem_mergeMatchingResources
    {digest : Resources -> String}
    {policies : List Policy}
    {merged : Policy} :
    merged ∈ mergeMatchingResources digest policies ↔
      Exists fun resources => Exists fun template =>
        (policiesOn resources policies).head? = some template ∧
          merged = mergedPolicy digest resources template (policiesOn resources policies) := by
  unfold mergeMatchingResources
  simp only [mem_sortedByName, List.mem_filterMap, List.mem_eraseDups, Option.map_eq_some_iff]
  constructor
  · rintro ⟨resources, _, template, isFirst, rfl⟩
    exact ⟨resources, template, isFirst, rfl⟩
  · rintro ⟨resources, template, isFirst, rfl⟩
    have member := List.mem_of_head? isFirst
    obtain ⟨present, on⟩ := mem_policiesOn.mp member
    exact ⟨resources, ⟨template, present, on⟩, template, isFirst, rfl⟩

/-- A role is used when some user is bound to it. -/
def Used (model : RoleModel) (role : BoundRole) : Prop :=
  role ∈ model.boundRoles ∧ role.users ≠ []

/-- A policy is that of a grant on tables, or it is on access to something else, or
it is a row filter or a column mask of a used role. -/
theorem unmergedPolicies_cases
    {service : String}
    {model : RoleModel}
    {compiled : Policy}
    (member : compiled ∈ unmergedPolicies service model) :
    (Exists fun role => Exists fun grant => Exists fun index =>
        Used model role ∧ grant ∈ role.permissions.tables ∧
          compiled = tablePolicy service role grant index) ∨
      (Exists fun name => Exists fun resources => Exists fun users => Exists fun accesses =>
        compiled = policy service name resources users accesses ∧
          resources.lookup "table" = none) ∨
      Exists fun role => Exists fun index =>
        Used model role ∧
          ((Exists fun grant => compiled = roleRowFilterPolicy service role grant index) ∨
            Exists fun grant => compiled = roleColumnMaskPolicy service role grant index) := by
  rcases List.mem_append.mp member with fromRole | common
  · obtain ⟨role, used, fromRole⟩ := List.mem_flatMap.mp fromRole
    obtain ⟨isRole, hasUsers⟩ := List.mem_filter.mp used
    replace hasUsers : role.users ≠ [] := by simpa using hasUsers
    simp only [rolePolicies, roleAccessPolicies, roleTransformations, List.append_assoc,
      List.mem_append, List.mem_map] at fromRole
    rcases fromRole with ⟨entry, _, rfl⟩ | ⟨entry, _, rfl⟩ | ⟨entry, isEntry, rfl⟩ |
      ⟨entry, _, rfl⟩ | ⟨entry, _, rfl⟩ | query | system
    · exact Or.inr (Or.inl ⟨_, _, _, _, rfl, rfl⟩)
    · exact Or.inr (Or.inl ⟨_, _, _, _, rfl, rfl⟩)
    · have isGrant := List.fst_mem_of_mem_zipIdx isEntry
      exact Or.inl ⟨role, entry.1, entry.2, ⟨isRole, hasUsers⟩, isGrant, rfl⟩
    · exact Or.inr (Or.inr ⟨role, entry.2, ⟨isRole, hasUsers⟩, Or.inl ⟨entry.1, rfl⟩⟩)
    · exact Or.inr (Or.inr ⟨role, entry.2, ⟨isRole, hasUsers⟩, Or.inr ⟨entry.1, rfl⟩⟩)
    · unfold queryPolicies at query
      split at query
      · obtain rfl := List.mem_singleton.mp query
        exact Or.inr (Or.inl ⟨_, _, _, _, rfl, rfl⟩)
      · exact absurd query List.not_mem_nil
    · unfold systemInformationPolicies at system
      split at system
      · exact absurd system List.not_mem_nil
      · obtain rfl := List.mem_singleton.mp system
        exact Or.inr (Or.inl ⟨_, _, _, _, rfl, rfl⟩)
  · rcases List.mem_append.mp common with query | impersonation
    · split at query
      · obtain rfl := List.mem_singleton.mp query
        exact Or.inr (Or.inl ⟨_, _, _, _, rfl, rfl⟩)
      · exact absurd query List.not_mem_nil
    · obtain rfl := List.mem_singleton.mp impersonation
      exact Or.inr (Or.inl ⟨_, _, _, _, rfl, rfl⟩)

/-- An access policy is written by `_policy`. -/
theorem accessPolicies_cases
    {service : String}
    {model : RoleModel}
    {compiled : Policy}
    (member : compiled ∈ accessPolicies service model) :
    Exists fun name => Exists fun resources => Exists fun users => Exists fun accesses =>
      compiled = policy service name resources users accesses := by
  obtain ⟨member, type⟩ := List.mem_filter.mp member
  replace type : compiled.policyType = some 0 := by simpa using type
  rcases unmergedPolicies_cases member with ⟨role, grant, index, _, _, rfl⟩ |
    ⟨name, resources, users, accesses, rfl, _⟩ | ⟨role, index, _, ⟨grant, rfl⟩ | ⟨grant, rfl⟩⟩
  · exact ⟨_, _, _, _, rfl⟩
  · exact ⟨_, _, _, _, rfl⟩
  · exact absurd type (by simp [roleRowFilterPolicy, rowFilterPolicy, managedPolicy])
  · exact absurd type (by simp [roleColumnMaskPolicy, dataMaskPolicy, managedPolicy])

/-- Every grant has a number. -/
theorem exists_mem_zipIdx {Grant : Type} {grants : List Grant} {grant : Grant}
    (isGrant : grant ∈ grants) :
    Exists fun index => (grant, index) ∈ grants.zipIdx 1 := by
  rw [← List.zipIdx_map_fst 1 grants] at isGrant
  obtain ⟨entry, isEntry, rfl⟩ := List.mem_map.mp isGrant
  exact ⟨entry.2, isEntry⟩

/-- Each grant on tables of a used role has its policy. -/
theorem tablePolicy_mem_unmergedPolicies
    (service : String)
    {model : RoleModel}
    {role : BoundRole}
    (used : Used model role)
    {grant : TableGrant}
    (isGrant : grant ∈ role.permissions.tables) :
    Exists fun index => tablePolicy service role grant index ∈ unmergedPolicies service model := by
  obtain ⟨index, isEntry⟩ := exists_mem_zipIdx isGrant
  refine ⟨index, List.mem_append_left _ (List.mem_flatMap.mpr ⟨role, ?_, ?_⟩)⟩
  · exact List.mem_filter.mpr ⟨used.1, by simpa using used.2⟩
  · simp only [rolePolicies, roleAccessPolicies, List.append_assoc, List.mem_append]
    exact Or.inr (Or.inr (Or.inl (List.mem_map.mpr ⟨_, isEntry, rfl⟩)))

end Access
end LakehouseOps
