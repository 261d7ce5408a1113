import LakehouseOps.Access.RangerPolicy

/-!
# The relation of the access policies

The access policies say who has which access on which resources. Merging the policies
on the same resources keeps this relation, so the compiled policies allow what the
roles bound to a user permit, grant by grant, and what every bound user has.
-/

namespace LakehouseOps
namespace Access

/-! ## What the policies allow -/

/-- The item names the user and allows the access. -/
def PolicyItem.Lists (item : PolicyItem) (user access : String) : Prop :=
  user ∈ item.users ∧ { type := access, isAllowed := true } ∈ item.accesses

/-- Some access policy on the resources allows the access to the user. -/
def AllowedOn
    (policies : List Policy)
    (user : String)
    (resources : Resources)
    (access : String) : Prop :=
  Exists fun policy => Exists fun item =>
    (policy ∈ policies ∧ policy.policyType = some 0 ∧ policy.resources = some resources) ∧
      item ∈ policy.policyItems.getD [] ∧ item.Lists user access

theorem accessItem_lists_iff {users accesses : List String} {user access : String} :
    (accessItem users accesses).Lists user access ↔ user ∈ users ∧ access ∈ accesses := by
  unfold PolicyItem.Lists accessItem
  simp

/-! ### Merging keeps the relation -/

/-- An access policy has one item, and what the item lists is allowed. -/
structure OneItem (policy : Policy) (item : PolicyItem) : Prop where
  type : policy.policyType = some 0
  only : policy.policyItems = some [item]
  allowed : forall access, access ∈ item.accesses -> access.isAllowed = true

theorem oneItem_policy
    (service name : String)
    (resources : Resources)
    (users accesses : List String) :
    OneItem (policy service name resources users accesses) (accessItem users accesses) where
  type := rfl
  only := rfl
  allowed := by
    intro access member
    obtain ⟨_, _, rfl⟩ := List.mem_map.mp member
    rfl

/-- Every policy has one item and is on some resources. -/
structure Mergeable (policies : List Policy) : Prop where
  single : forall policy, policy ∈ policies -> Exists (OneItem policy)
  onResources : forall policy, policy ∈ policies -> policy.resources ≠ none

theorem mergeable_accessPolicies (service : String) (model : RoleModel) :
    Mergeable (accessPolicies service model) where
  single := by
    intro compiled member
    obtain ⟨name, resources, users, accesses, rfl⟩ := accessPolicies_cases member
    exact ⟨_, oneItem_policy service name resources users accesses⟩
  onResources := by
    intro compiled member
    obtain ⟨name, resources, users, accesses, rfl⟩ := accessPolicies_cases member
    exact Option.some_ne_none resources

theorem Mergeable.policiesOn
    {policies : List Policy}
    (mergeable : Mergeable policies)
    (resources : Resources) :
    Mergeable (policiesOn resources policies) where
  single := fun policy member => mergeable.single policy (mem_policiesOn.mp member).1
  onResources := fun policy member => mergeable.onResources policy (mem_policiesOn.mp member).1

theorem mem_firstItems
    {policies : List Policy}
    (single : forall policy, policy ∈ policies -> Exists (OneItem policy))
    {item : PolicyItem} :
    item ∈ firstItems policies ↔
      Exists fun policy => policy ∈ policies ∧ OneItem policy item := by
  unfold firstItems
  rw [List.mem_filterMap]
  refine exists_congr fun policy => and_congr_right fun member => ?_
  obtain ⟨only, isOnly⟩ := single policy member
  rw [isOnly.only, Option.getD_some, List.head?_cons, Option.some.injEq]
  constructor
  · rintro rfl
    exact isOnly
  · intro other
    have same := isOnly.only.symm.trans other.only
    simpa using same

/-- The accesses by which an item is grouped are those it lists. -/
theorem OneItem.mem_accessKey_iff
    {policy : Policy}
    {item : PolicyItem}
    (isOnly : OneItem policy item)
    {access : String} :
    access ∈ item.accessKey ↔ { type := access, isAllowed := true } ∈ item.accesses := by
  rw [PolicyItem.accessKey, mem_sorted, List.mem_map]
  constructor
  · rintro ⟨⟨type, isAllowed⟩, isListed, rfl⟩
    obtain rfl : isAllowed = true := isOnly.allowed _ isListed
    exact isListed
  · intro isListed
    exact ⟨_, isListed, rfl⟩

/-- The items of a merged policy list what the items it was merged from list. -/
theorem mergedItems_list_iff
    {policies : List Policy}
    (single : forall policy, policy ∈ policies -> Exists (OneItem policy))
    {user access : String} :
    (Exists fun item => item ∈ mergedItems policies ∧ item.Lists user access) ↔
      Exists fun policy => Exists fun item =>
        policy ∈ policies ∧ OneItem policy item ∧ item.Lists user access := by
  simp only [mergedItems, List.mem_map, List.mem_insertionSort, List.mem_dedup]
  constructor
  · rintro ⟨_, ⟨_, ⟨first, _, rfl⟩, rfl⟩, names, allowed⟩
    simp only [mem_sortedSet, List.mem_flatMap, List.mem_filter, decide_eq_true_eq] at names
    obtain ⟨item, ⟨isItem, sameKey⟩, isUser⟩ := names
    obtain ⟨policy, member, isOnly⟩ := (mem_firstItems single).mp isItem
    obtain ⟨type, isType, same⟩ := List.mem_map.mp allowed
    rw [← sameKey] at isType
    obtain rfl := congrArg ItemAccess.type same
    exact ⟨policy, item, member, isOnly, isUser, isOnly.mem_accessKey_iff.mp isType⟩
  · rintro ⟨policy, item, member, isOnly, isUser, isListed⟩
    have isItem := (mem_firstItems single).mpr ⟨policy, member, isOnly⟩
    refine ⟨_, ⟨item.accessKey, ⟨item, isItem, rfl⟩, rfl⟩, ?_, ?_⟩
    · simp only [mem_sortedSet, List.mem_flatMap, List.mem_filter, decide_eq_true_eq]
      exact ⟨item, ⟨isItem, rfl⟩, isUser⟩
    · exact List.mem_map.mpr ⟨access, isOnly.mem_accessKey_iff.mpr isListed, rfl⟩

/-- The merged policies allow what the policies allow. -/
theorem allowedOn_merge_iff
    {digest : Resources -> String}
    {policies : List Policy}
    (mergeable : Mergeable policies)
    {user access : String}
    {resources : Resources} :
    AllowedOn (mergeMatchingResources digest policies) user resources access ↔
      AllowedOn policies user resources access := by
  have single := (mergeable.policiesOn resources).single
  constructor
  · rintro ⟨merged, item, ⟨member, _, on⟩, isItem, lists⟩
    obtain ⟨other, template, isFirst, rfl⟩ := mem_mergeMatchingResources.mp member
    have templateOn := (mem_policiesOn.mp (List.mem_of_head? isFirst)).2
    obtain rfl : other = resources := Option.some.inj (templateOn.symm.trans on)
    obtain ⟨policy, original, isMatch, isOnly, originalLists⟩ :=
      (mergedItems_list_iff single).mp ⟨item, isItem, lists⟩
    obtain ⟨isPolicy, policyOn⟩ := mem_policiesOn.mp isMatch
    refine ⟨policy, original, ⟨isPolicy, isOnly.type, policyOn⟩, ?_, originalLists⟩
    rw [isOnly.only]
    exact List.mem_singleton.mpr rfl
  · rintro ⟨policy, item, ⟨member, _, on⟩, isItem, lists⟩
    have isMatch := mem_policiesOn.mpr ⟨member, on⟩
    obtain ⟨only, isOnly⟩ := mergeable.single policy member
    rw [isOnly.only, Option.getD_some, List.mem_singleton] at isItem
    subst isItem
    obtain ⟨mergedItem, isMerged, mergedLists⟩ :=
      (mergedItems_list_iff single).mpr ⟨policy, item, isMatch, isOnly, lists⟩
    obtain ⟨template, isFirst⟩ : Exists fun template =>
        (policiesOn resources policies).head? = some template :=
      Option.isSome_iff_exists.mp (List.isSome_head?.mpr (List.ne_nil_of_mem isMatch))
    have isTemplate := List.mem_of_head? isFirst
    obtain ⟨_, templateOnly⟩ := single template isTemplate
    exact ⟨_, mergedItem,
      ⟨mem_mergeMatchingResources.mpr ⟨resources, template, isFirst, rfl⟩, templateOnly.type,
        (mem_policiesOn.mp isTemplate).2⟩, isMerged, mergedLists⟩

/-- The compiled policies allow what the policies before merging allow. -/
theorem allowedOn_compile_iff_unmerged
    {digest : Resources -> String}
    {model : RoleModel}
    {service user access : String}
    {resources : Resources} :
    AllowedOn (compileRangerPolicies digest model service) user resources access ↔
      AllowedOn (unmergedPolicies service model) user resources access := by
  have ofAccess : AllowedOn (accessPolicies service model) user resources access ↔
      AllowedOn (unmergedPolicies service model) user resources access := by
    refine exists_congr fun policy => exists_congr fun item => and_congr_left fun _ => ?_
    simp only [accessPolicies, List.mem_filter, decide_eq_true_eq]
    tauto
  rw [← ofAccess, ← allowedOn_merge_iff (mergeable_accessPolicies service model)]
  refine exists_congr fun policy => exists_congr fun item => and_congr_left fun _ => ?_
  simp only [compileRangerPolicies, mem_sortedByName, List.mem_append]
  constructor
  · rintro ⟨merged | transforms, type, on⟩
    · exact ⟨merged, type, on⟩
    · have other := (List.mem_filter.mp transforms).2
      simp [type] at other
  · rintro ⟨merged, type, on⟩
    exact ⟨Or.inl merged, type, on⟩

/-! ## What the roles permit -/

/-- Accesses on resources. -/
abbrev Entitlement := Resources × List String

/-- Some of the entitlements is to the access on the resources. -/
def Entitles
    (entitlements : List Entitlement)
    (resources : Resources)
    (access : String) : Prop :=
  Exists fun entitlement =>
    entitlement ∈ entitlements ∧ entitlement.1 = resources ∧ access ∈ entitlement.2

def CatalogGrant.entitlement (grant : CatalogGrant) : Entitlement :=
  ([("catalog", resource grant.catalogs)], [if grant.access = "all" then "all" else "select"])

def SchemaGrant.entitlement (grant : SchemaGrant) : Entitlement :=
  ([("catalog", resource grant.catalogs), ("schema", resource grant.schemas)],
    [if grant.owner then "all" else "select"])

def TableGrant.entitlement (grant : TableGrant) : Entitlement :=
  ([("catalog", resource grant.catalogs), ("column", resource ["*"]),
      ("schema", resource grant.schemas), ("table", resource grant.tables)],
    tableAccesses grant.privileges)

/-- Execution of queries, where it is listed. -/
def queryEntitlements (queries : List String) : List Entitlement :=
  if "execute" ∈ queries then [([("queryid", resource ["*"])], ["execute"])] else []

/-- The listed accesses to system information. -/
def systemEntitlement (accesses : List String) : Entitlement :=
  ([("sysinfo", resource ["*"])], accesses.map fun access => access ++ "_sysinfo")

/-- What the permissions entitle a user to, grant by grant. -/
def RolePermissions.entitlements (permissions : RolePermissions) : List Entitlement :=
  permissions.catalogs.map CatalogGrant.entitlement ++
    permissions.schemas.map SchemaGrant.entitlement ++
    permissions.tables.map TableGrant.entitlement ++
    queryEntitlements (permissions.queries.getD []) ++
    [systemEntitlement (permissions.systemInformation.getD [])]

/-- What every bound user is entitled to: queries by default, and to act as oneself. -/
def Defaults.entitlements (defaults : Defaults) : List Entitlement :=
  queryEntitlements defaults.queries ++
    [([("trinouser", resource ["\x7bUSER\x7d"])], ["impersonate"])]

/-- Some binding names the user and the role. -/
def RoleModel.Assigns (model : RoleModel) (user role : String) : Prop :=
  Exists fun binding =>
    binding ∈ model.bindings ∧ user ∈ binding.users ∧ role ∈ binding.roles

/-- The user is entitled by a role that a binding assigns, or as every bound user is. -/
def RoleModel.Entitled
    (model : RoleModel)
    (user : String)
    (resources : Resources)
    (access : String) : Prop :=
  (Exists fun entry =>
      entry ∈ model.roles ∧ model.Assigns user entry.1 ∧
        Entitles entry.2.entitlements resources access) ∨
    ((Exists fun role => model.Assigns user role) ∧ Entitles model.defaults.entitlements resources access)

@[simp] theorem entitles_append {left right : List Entitlement} {resources : Resources}
    {access : String} :
    Entitles (left ++ right) resources access ↔
      Entitles left resources access ∨ Entitles right resources access := by
  simp [Entitles, or_and_right, exists_or]

theorem entitles_singleton {entitlement : Entitlement} {resources : Resources}
    {access : String} :
    Entitles [entitlement] resources access ↔
      entitlement.1 = resources ∧ access ∈ entitlement.2 := by
  simp [Entitles]

/-! ### One role -/

section Allowed

variable {user access : String} {resources : Resources}

theorem not_allowedOn_nil : ¬AllowedOn [] user resources access := by
  rintro ⟨policy, item, ⟨member, _⟩, _⟩
  exact List.not_mem_nil member

theorem allowedOn_append {left right : List Policy} :
    AllowedOn (left ++ right) user resources access ↔
      AllowedOn left user resources access ∨ AllowedOn right user resources access := by
  simp only [AllowedOn, List.mem_append, or_and_right, exists_or]

theorem allowedOn_flatMap {Source : Type} {sources : List Source}
    {policies : Source -> List Policy} :
    AllowedOn (sources.flatMap policies) user resources access ↔
      Exists fun source =>
        source ∈ sources ∧ AllowedOn (policies source) user resources access := by
  constructor
  · rintro ⟨policy, item, ⟨member, on⟩, lists⟩
    obtain ⟨source, isSource, isPolicy⟩ := List.mem_flatMap.mp member
    exact ⟨source, isSource, policy, item, ⟨isPolicy, on⟩, lists⟩
  · rintro ⟨source, isSource, policy, item, ⟨isPolicy, on⟩, lists⟩
    exact ⟨policy, item, ⟨List.mem_flatMap.mpr ⟨source, isSource, isPolicy⟩, on⟩, lists⟩

/-- A written policy allows its users its accesses on its resources. -/
theorem allowedOn_policy
    {service name : String}
    {users accesses : List String}
    {written : Resources} :
    AllowedOn [policy service name written users accesses] user resources access ↔
      user ∈ users ∧ Entitles [(written, accesses)] resources access := by
  rw [entitles_singleton]
  constructor
  · rintro ⟨_, item, ⟨member, _, on⟩, isItem, lists⟩
    obtain rfl := List.mem_singleton.mp member
    obtain rfl := List.mem_singleton.mp isItem
    obtain ⟨isUser, isAccess⟩ := accessItem_lists_iff.mp lists
    exact ⟨isUser, Option.some.inj on, isAccess⟩
  · rintro ⟨isUser, rfl, isAccess⟩
    exact ⟨_, _, ⟨List.mem_singleton.mpr rfl, rfl, rfl⟩, List.mem_singleton.mpr rfl,
      accessItem_lists_iff.mpr ⟨isUser, isAccess⟩⟩

/-- Numbered grants allow the users what each of them is translated to. -/
theorem allowedOn_numbered
    {Grant : Type}
    {grants : List Grant}
    {users : List String}
    (written : Grant -> Nat -> Policy)
    (entitlement : Grant -> Entitlement)
    (writes : forall grant index, AllowedOn [written grant index] user resources access ↔
      user ∈ users ∧ Entitles [entitlement grant] resources access) :
    AllowedOn ((grants.zipIdx 1).map fun entry => written entry.1 entry.2)
        user resources access ↔
      user ∈ users ∧ Entitles (grants.map entitlement) resources access := by
  constructor
  · rintro ⟨policy, item, ⟨member, on⟩, lists⟩
    obtain ⟨entry, isEntry, rfl⟩ := List.mem_map.mp member
    obtain ⟨isUser, entitles⟩ := (writes entry.1 entry.2).mp
      ⟨_, item, ⟨List.mem_singleton.mpr rfl, on⟩, lists⟩
    obtain ⟨onResources, isAccess⟩ := entitles_singleton.mp entitles
    have isGrant := List.mem_map_of_mem (f := entitlement) (List.fst_mem_of_mem_zipIdx isEntry)
    exact ⟨isUser, _, isGrant, onResources, isAccess⟩
  · rintro ⟨isUser, _, isEntitlement, onResources, isAccess⟩
    obtain ⟨grant, isGrant, rfl⟩ := List.mem_map.mp isEntitlement
    obtain ⟨index, isEntry⟩ := exists_mem_zipIdx isGrant
    obtain ⟨policy, item, ⟨member, on⟩, lists⟩ := (writes grant index).mpr
      ⟨isUser, entitles_singleton.mpr ⟨onResources, isAccess⟩⟩
    obtain rfl := List.mem_singleton.mp member
    exact ⟨_, item, ⟨List.mem_map.mpr ⟨_, isEntry, rfl⟩, on⟩, lists⟩

theorem allowedOn_roleAccessPolicies {service : String} {role : BoundRole} :
    AllowedOn (roleAccessPolicies service role) user resources access ↔
      user ∈ role.users ∧
        Entitles (role.permissions.catalogs.map CatalogGrant.entitlement ++
          role.permissions.schemas.map SchemaGrant.entitlement ++
          role.permissions.tables.map TableGrant.entitlement) resources access := by
  unfold roleAccessPolicies
  rw [allowedOn_append, allowedOn_append,
    allowedOn_numbered (catalogPolicy service role) CatalogGrant.entitlement
      fun _ _ => allowedOn_policy,
    allowedOn_numbered (schemaPolicy service role) SchemaGrant.entitlement
      fun _ _ => allowedOn_policy,
    allowedOn_numbered (tablePolicy service role) TableGrant.entitlement
      fun _ _ => allowedOn_policy,
    entitles_append, entitles_append, and_or_left, and_or_left]

/-- Filters and masks are not on access. -/
theorem not_allowedOn_roleTransformations {service : String} {role : BoundRole} :
    ¬AllowedOn (roleTransformations service role) user resources access := by
  rintro ⟨policy, item, ⟨member, type, _⟩, _⟩
  rcases List.mem_append.mp member with isFilter | isMask
  · obtain ⟨entry, _, rfl⟩ := List.mem_map.mp isFilter
    exact absurd (Option.some.inj type) (by decide)
  · obtain ⟨entry, _, rfl⟩ := List.mem_map.mp isMask
    exact absurd (Option.some.inj type) (by decide)

theorem not_entitles_nil : ¬Entitles [] resources access := by
  rintro ⟨entitlement, member, _⟩
  exact List.not_mem_nil member

/-- Policies on queries, written where execution is listed. -/
theorem allowedOn_queries {service name : String} {users queries : List String} :
    AllowedOn
        (if "execute" ∈ queries then
          [policy service name [("queryid", resource ["*"])] users ["execute"]]
        else []) user resources access ↔
      user ∈ users ∧ Entitles (queryEntitlements queries) resources access := by
  unfold queryEntitlements
  split
  · exact allowedOn_policy
  · exact iff_of_false not_allowedOn_nil fun entitled => not_entitles_nil entitled.2

theorem allowedOn_systemInformationPolicies {service : String} {role : BoundRole} :
    AllowedOn (systemInformationPolicies service role) user resources access ↔
      user ∈ role.users ∧
        Entitles [systemEntitlement (role.permissions.systemInformation.getD [])]
          resources access := by
  unfold systemInformationPolicies
  split
  · next none =>
      rw [none]
      refine iff_of_false not_allowedOn_nil fun entitled => ?_
      exact List.not_mem_nil (entitles_singleton.mp entitled.2).2
  · next some =>
      rw [some]
      exact allowedOn_policy

/-- The policies of a role allow its users what the role permits. -/
theorem allowedOn_rolePolicies {service : String} {role : BoundRole} :
    AllowedOn (rolePolicies service role) user resources access ↔
      user ∈ role.users ∧ Entitles role.permissions.entitlements resources access := by
  have queries : AllowedOn (queryPolicies service role) user resources access ↔
      user ∈ role.users ∧
        Entitles (queryEntitlements (role.permissions.queries.getD [])) resources access :=
    allowedOn_queries
  unfold rolePolicies RolePermissions.entitlements
  rw [allowedOn_append, allowedOn_append, allowedOn_append, allowedOn_roleAccessPolicies,
    or_iff_left not_allowedOn_roleTransformations, queries,
    allowedOn_systemInformationPolicies]
  simp only [entitles_append, and_or_left]

/-! ### The whole model -/

/-- The policies for all users. -/
theorem allowedOn_commonPolicies {service : String} {model : RoleModel} :
    AllowedOn (commonPolicies service model) user resources access ↔
      user ∈ sortedSet (model.boundRoles.flatMap BoundRole.users) ∧
        Entitles model.defaults.entitlements resources access := by
  unfold commonPolicies Defaults.entitlements
  rw [allowedOn_append, allowedOn_queries, allowedOn_policy, entitles_append, and_or_left]

/-- The users of a role of the model are those to whom a binding assigns it. -/
theorem mem_usersByRole_iff_assigns {model : RoleModel} {role : String} :
    user ∈ usersByRole model.bindings role ↔ model.Assigns user role := by
  rw [mem_usersByRole]
  exact exists_congr fun binding => and_congr_right fun _ => and_comm

/-- In a model with valid bindings, all users are those with some role. -/
theorem mem_allUsers_iff
    {model : RoleModel}
    (valid : forall binding, binding ∈ model.bindings -> binding.Valid model) :
    user ∈ sortedSet (model.boundRoles.flatMap BoundRole.users) ↔
      Exists fun role => model.Assigns user role := by
  rw [mem_sortedSet, List.mem_flatMap]
  constructor
  · rintro ⟨role, isRole, isUser⟩
    obtain ⟨entry, _, rfl⟩ := List.mem_map.mp isRole
    exact ⟨entry.1, mem_usersByRole_iff_assigns.mp isUser⟩
  · rintro ⟨name, assigns⟩
    obtain ⟨binding, isBinding, _, assigned⟩ := id assigns
    obtain ⟨entry, isEntry, rfl⟩ := List.mem_map.mp ((valid binding isBinding).known _ assigned)
    exact ⟨_, List.mem_map.mpr ⟨entry, isEntry, rfl⟩, mem_usersByRole_iff_assigns.mpr assigns⟩

/-- The compiled policies allow exactly what the model entitles a user to. -/
theorem allowedOn_compile_iff_entitled
    {digest : Resources -> String}
    {model : RoleModel}
    (valid : forall binding, binding ∈ model.bindings -> binding.Valid model)
    {service : String} :
    AllowedOn (compileRangerPolicies digest model service) user resources access ↔
      model.Entitled user resources access := by
  rw [allowedOn_compile_iff_unmerged]
  unfold unmergedPolicies RoleModel.Entitled
  rw [allowedOn_append, allowedOn_commonPolicies, mem_allUsers_iff valid, allowedOn_flatMap]
  refine or_congr_left ⟨?_, ?_⟩
  · rintro ⟨role, used, allowed⟩
    obtain ⟨entry, isEntry, rfl⟩ := List.mem_map.mp (List.mem_filter.mp used).1
    obtain ⟨isUser, entitles⟩ := allowedOn_rolePolicies.mp allowed
    exact ⟨entry, isEntry, mem_usersByRole_iff_assigns.mp isUser, entitles⟩
  · rintro ⟨entry, isEntry, assigns, entitles⟩
    have isUser := mem_usersByRole_iff_assigns.mpr assigns
    refine ⟨_, List.mem_filter.mpr ⟨List.mem_map.mpr ⟨entry, isEntry, rfl⟩, ?_⟩,
      allowedOn_rolePolicies.mpr ⟨isUser, entitles⟩⟩
    exact decide_eq_true (List.ne_nil_of_mem isUser)

end Allowed

end Access
end LakehouseOps
