import Mathlib.Data.List.Nodup
import Mathlib.Data.List.Pairwise
import LakehouseOps.Access.RangerConvergence
import LakehouseOps.Access.RangerRelation
import LakehouseOps.Access.TrinoPolicy

/-!
# Policies on the same resources

The compiled policies have distinct names. Access policies on equal resources are
merged, but resources that list the same values in another order are not, and row
filters and column masks are never merged.
-/

namespace LakehouseOps
namespace Access

/-! ## The same resources -/

/-- The resources list the value for the kind. -/
def ListsValue (resources : Resources) (kind value : String) : Prop :=
  Exists fun entry => entry ∈ resources ∧ entry.1 = kind ∧ value ∈ entry.2.values

/-- Two resources are the same: for each kind they list the same set of values. -/
structure SameResources (left right : Resources) : Prop where
  kinds : left.map Prod.fst = right.map Prod.fst
  values : forall kind value, ListsValue left kind value ↔ ListsValue right kind value

theorem SameResources.refl (resources : Resources) : SameResources resources resources :=
  ⟨rfl, fun _ _ => Iff.rfl⟩

theorem SameResources.symm
    {left right : Resources}
    (same : SameResources left right) :
    SameResources right left :=
  ⟨same.kinds.symm, fun kind value => (same.values kind value).symm⟩

/-- Two policies cover the same resources. -/
def CoverSame (left right : Policy) : Prop :=
  Exists fun leftResources => Exists fun rightResources =>
    left.resources = some leftResources ∧ right.resources = some rightResources ∧
      SameResources leftResources rightResources

theorem CoverSame.symm {left right : Policy} (same : CoverSame left right) :
    CoverSame right left := by
  obtain ⟨leftResources, rightResources, isLeft, isRight, same⟩ := same
  exact ⟨rightResources, leftResources, isRight, isLeft, same.symm⟩

theorem coverSame_iff
    {left right : Policy}
    {leftResources rightResources : Resources}
    (isLeft : left.resources = some leftResources)
    (isRight : right.resources = some rightResources) :
    CoverSame left right ↔ SameResources leftResources rightResources := by
  constructor
  · rintro ⟨_, _, someLeft, someRight, same⟩
    rw [Option.some.inj (isLeft.symm.trans someLeft),
      Option.some.inj (isRight.symm.trans someRight)]
    exact same
  · intro same
    exact ⟨_, _, isLeft, isRight, same⟩

/-- No two policies collide: their names differ, and no two of one type cover the same
resources. -/
structure Collisionless (policies : List Policy) : Prop where
  names : (policies.map Policy.name).Nodup
  resources : policies.Pairwise fun left right =>
    left.policyType = right.policyType -> ¬CoverSame left right

/-! ### Policies of one type -/

/-- A condition on the pairs of one class holds when it holds within each class. -/
theorem pairwise_within_iff
    {Item Class : Type}
    [DecidableEq Class]
    (classOf : Item -> Class)
    (Related : Item -> Item -> Prop)
    (items : List Item) :
    (items.Pairwise fun left right => classOf left = classOf right -> Related left right) ↔
      forall group, (items.filter fun item => classOf item = group).Pairwise Related := by
  simp only [List.pairwise_filter, decide_eq_true_eq]
  simp only [List.pairwise_iff_forall_sublist]
  constructor
  · intro within group left right pair isLeft isRight
    exact within pair (isLeft.trans isRight.symm)
  · intro each left right pair same
    exact each (classOf left) pair rfl same.symm

/-- In a list without repetitions a condition holds of all pairs when it holds of any two
different items. -/
theorem pairwise_not_iff
    {Item : Type}
    (Same : Item -> Item -> Prop)
    (symm : forall {left right}, Same left right -> Same right left)
    {items : List Item}
    (distinct : items.Nodup) :
    (items.Pairwise fun left right => ¬Same left right) ↔
      forall left, left ∈ items -> forall right, right ∈ items ->
        Same left right -> left = right := by
  constructor
  · intro apart left isLeft right isRight same
    have : Std.Symm fun left right => ¬Same left right := ⟨fun _ _ => mt symm⟩
    exact of_not_not fun differ => apart.forall isLeft isRight differ same
  · intro single
    exact distinct.pairwise_of_forall_ne fun left isLeft right isRight differ same =>
      differ (single left isLeft right isRight same)

/-- Policies whose resources are those of some grants are apart when the grants are. -/
theorem pairwise_coverSame_iff
    {policies : List Policy}
    {written : List Resources}
    (areWritten : policies.map Policy.resources = written.map some) :
    (policies.Pairwise fun left right => ¬CoverSame left right) ↔
      written.Pairwise fun left right => ¬SameResources left right := by
  let Cover : Option Resources -> Option Resources -> Prop := fun left right =>
    Exists fun leftResources => Exists fun rightResources =>
      left = some leftResources ∧ right = some rightResources ∧
        SameResources leftResources rightResources
  have byResources : (policies.Pairwise fun left right => ¬CoverSame left right) ↔
      (policies.map Policy.resources).Pairwise fun left right => ¬Cover left right := by
    rw [List.pairwise_map]
    exact Iff.rfl
  rw [byResources, areWritten, List.pairwise_map]
  have byWritten : forall left right : Resources,
      Cover (some left) (some right) ↔ SameResources left right := by
    intro left right
    constructor
    · rintro ⟨_, _, ⟨⟩, ⟨⟩, same⟩
      exact same
    · intro same
      exact ⟨left, right, rfl, rfl, same⟩
  simp only [byWritten]

/-! ## The resources of the grants -/

def RowFilterGrant.resources (grant : RowFilterGrant) : Resources :=
  [("catalog", resource grant.catalogs), ("schema", resource grant.schemas),
    ("table", resource grant.tables)]

def ColumnMaskGrant.resources (grant : ColumnMaskGrant) : Resources :=
  [("catalog", resource grant.catalogs), ("column", resource grant.columns),
    ("schema", resource grant.schemas), ("table", resource grant.tables)]

/-- The resources of the grants of access, in catalogs, schemas and tables. -/
def RolePermissions.grantResources (permissions : RolePermissions) : List Resources :=
  (permissions.catalogs.map fun grant => grant.entitlement.1) ++
    (permissions.schemas.map fun grant => grant.entitlement.1) ++
    permissions.tables.map fun grant => grant.entitlement.1

/-- The resources of the grants of access of the roles with users. -/
def RoleModel.grantResources (model : RoleModel) : List Resources :=
  (usedRoles model.boundRoles).flatMap fun role => role.permissions.grantResources

/-- The resources of the row filters of the roles with users. -/
def RoleModel.filterResources (model : RoleModel) : List Resources :=
  (usedRoles model.boundRoles).flatMap fun role =>
    role.permissions.rowFilters.map RowFilterGrant.resources

/-- The resources of the column masks of the roles with users. -/
def RoleModel.maskResources (model : RoleModel) : List Resources :=
  (usedRoles model.boundRoles).flatMap fun role =>
    role.permissions.columnMasks.map ColumnMaskGrant.resources

/-- Grants of access on the same resources list them alike, and no two row filters and no
two column masks are on the same resources. -/
structure GrantsApart (model : RoleModel) : Prop where
  access : forall left, left ∈ model.grantResources ->
    forall right, right ∈ model.grantResources -> SameResources left right -> left = right
  filters : model.filterResources.Pairwise fun left right => ¬SameResources left right
  masks : model.maskResources.Pairwise fun left right => ¬SameResources left right

/-! ### The policies of each type -/

/-- Policies of one type are all of them or none of another type. -/
theorem filter_type
    {policies : List Policy}
    {type : Nat}
    (all : forall policy, policy ∈ policies -> policy.policyType = some type)
    (wanted : Option Nat) :
    (policies.filter fun policy => policy.policyType = wanted) =
      if wanted = some type then policies else [] := by
  split
  · next same =>
      refine List.filter_eq_self.mpr fun policy member => decide_eq_true ?_
      rw [all policy member, same]
  · next differ =>
      refine List.filter_eq_nil_iff.mpr fun policy member => ?_
      rw [all policy member, decide_eq_true_eq]
      exact Ne.symm differ

/-- The resources of the policies that are written for numbered grants. -/
theorem resources_numbered
    {Grant : Type}
    (grants : List Grant)
    (written : Grant -> Nat -> Policy)
    (resourcesOf : Grant -> Resources)
    (on : forall grant index, (written grant index).resources = some (resourcesOf grant)) :
    ((grants.zipIdx 1).map fun entry => written entry.1 entry.2).map Policy.resources =
      (grants.map resourcesOf).map some := by
  have byGrant : (Policy.resources ∘ fun entry : Grant × Nat => written entry.1 entry.2) =
      (some ∘ resourcesOf) ∘ Prod.fst := by
    funext entry
    exact on entry.1 entry.2
  rw [List.map_map, byGrant, ← List.map_map, List.zipIdx_map_fst, List.map_map]

/-- The resources of the filters or masks that a role is given. -/
def RolePermissions.transformationResources
    (permissions : RolePermissions)
    (type : Option Nat) : List Resources :=
  (if type = some 2 then permissions.rowFilters.map RowFilterGrant.resources else []) ++
    if type = some 1 then permissions.columnMasks.map ColumnMaskGrant.resources else []

theorem resources_roleTransformations
    (service : String)
    (role : BoundRole)
    (type : Option Nat) :
    ((roleTransformations service role).filter fun policy =>
        policy.policyType = type).map Policy.resources =
      (role.permissions.transformationResources type).map some := by
  have filters : forall policy,
      policy ∈ ((role.permissions.rowFilters.zipIdx 1).map fun entry =>
        roleRowFilterPolicy service role entry.1 entry.2) -> policy.policyType = some 2 := by
    intro policy member
    obtain ⟨entry, _, rfl⟩ := List.mem_map.mp member
    rfl
  have masks : forall policy,
      policy ∈ ((role.permissions.columnMasks.zipIdx 1).map fun entry =>
        roleColumnMaskPolicy service role entry.1 entry.2) -> policy.policyType = some 1 := by
    intro policy member
    obtain ⟨entry, _, rfl⟩ := List.mem_map.mp member
    rfl
  have filterResources :=
    resources_numbered role.permissions.rowFilters
      (roleRowFilterPolicy service role) RowFilterGrant.resources fun _ _ => rfl
  have maskResources :=
    resources_numbered role.permissions.columnMasks
      (roleColumnMaskPolicy service role) ColumnMaskGrant.resources fun _ _ => rfl
  unfold roleTransformations RolePermissions.transformationResources
  rw [List.filter_append, filter_type filters, filter_type masks, List.map_append,
    List.map_append]
  split <;> split <;> simp [filterResources, maskResources]

/-- The resources of the row filters, of the column masks, or of no transformation. -/
theorem resources_transformationPolicies
    (service : String)
    (model : RoleModel)
    (type : Option Nat) :
    ((transformationPolicies service model).filter fun policy =>
        policy.policyType = type).map Policy.resources =
      ((usedRoles model.boundRoles).flatMap fun role =>
        role.permissions.transformationResources type).map some := by
  rw [transformationPolicies_eq, List.filter_flatMap, List.map_flatMap, List.map_flatMap]
  exact List.flatMap_congr fun role _ => resources_roleTransformations service role type

/-! ### The access policies -/

/-- The resources on which a policy has its own name. -/
def queryResources : Resources := [("queryid", resource ["*"])]

def systemResources : Resources := [("sysinfo", resource ["*"])]

def selfResources : Resources := [("trinouser", resource ["\x7bUSER\x7d"])]

/-- The resources that are not those of a grant in a catalog. -/
def commonResources : List Resources :=
  [queryResources, systemResources, selfResources]

/-- The kinds of resources that grants of access are on. -/
def grantKinds : List (List String) :=
  [["catalog"], ["catalog", "schema"], ["catalog", "column", "schema", "table"]]

theorem mem_grantResources {permissions : RolePermissions} {resources : Resources} :
    resources ∈ permissions.grantResources ↔
      (Exists fun grant => grant ∈ permissions.catalogs ∧ grant.entitlement.1 = resources) ∨
        (Exists fun grant => grant ∈ permissions.schemas ∧ grant.entitlement.1 = resources) ∨
          Exists fun grant => grant ∈ permissions.tables ∧ grant.entitlement.1 = resources := by
  simp only [RolePermissions.grantResources, List.append_assoc, List.mem_append, List.mem_map]

theorem kinds_of_mem_grantResources
    {model : RoleModel}
    {resources : Resources}
    (member : resources ∈ model.grantResources) :
    resources.map Prod.fst ∈ grantKinds := by
  obtain ⟨role, _, isGrant⟩ := List.mem_flatMap.mp member
  rcases mem_grantResources.mp isGrant with ⟨grant, _, rfl⟩ | ⟨grant, _, rfl⟩ | ⟨grant, _, rfl⟩
  · exact List.mem_cons_self
  · exact List.mem_cons_of_mem _ List.mem_cons_self
  · exact List.mem_cons_of_mem _ (List.mem_cons_of_mem _ List.mem_cons_self)

/-- The grants of access of a role are the resources of its access policies. -/
theorem resources_roleAccessPolicies (service : String) (role : BoundRole) :
    (roleAccessPolicies service role).map Policy.resources =
      role.permissions.grantResources.map some := by
  unfold roleAccessPolicies RolePermissions.grantResources
  rw [List.map_append, List.map_append, List.map_append, List.map_append,
    resources_numbered role.permissions.catalogs (catalogPolicy service role)
      (fun grant => grant.entitlement.1) fun _ _ => rfl,
    resources_numbered role.permissions.schemas (schemaPolicy service role)
      (fun grant => grant.entitlement.1) fun _ _ => rfl,
    resources_numbered role.permissions.tables (tablePolicy service role)
      (fun grant => grant.entitlement.1) fun _ _ => rfl]

/-- Some access policy is on the resources. -/
def OnAccess (service : String) (model : RoleModel) (resources : Resources) : Prop :=
  Exists fun policy =>
    policy ∈ accessPolicies service model ∧ policy.resources = some resources

theorem onAccess_of_grant
    (service : String)
    {model : RoleModel}
    {resources : Resources}
    (isGrant : resources ∈ model.grantResources) :
    OnAccess service model resources := by
  obtain ⟨role, isUsed, isGrant⟩ := List.mem_flatMap.mp isGrant
  have written : some resources ∈ (roleAccessPolicies service role).map Policy.resources := by
    rw [resources_roleAccessPolicies]
    exact List.mem_map_of_mem isGrant
  obtain ⟨policy, isPolicy, on⟩ := List.mem_map.mp written
  have type : policy.policyType = some 0 := by
    simp only [roleAccessPolicies, List.append_assoc, List.mem_append, List.mem_map] at isPolicy
    rcases isPolicy with ⟨_, _, rfl⟩ | ⟨_, _, rfl⟩ | ⟨_, _, rfl⟩ <;> rfl
  refine ⟨policy, List.mem_filter.mpr ⟨List.mem_append_left _ ?_, decide_eq_true type⟩, on⟩
  refine List.mem_flatMap.mpr ⟨role, isUsed, ?_⟩
  simp only [rolePolicies, List.append_assoc, List.mem_append]
  exact Or.inl isPolicy

/-- The access policies are on the resources of the grants and on the common ones. -/
theorem onAccess_cases
    {service : String}
    {model : RoleModel}
    {resources : Resources}
    (onAccess : OnAccess service model resources) :
    resources ∈ model.grantResources ∨ resources ∈ commonResources := by
  obtain ⟨policy, member, on⟩ := onAccess
  obtain ⟨member, type⟩ := List.mem_filter.mp member
  have common : forall {written : Resources}, written ∈ commonResources ->
      policy.resources = some written -> resources ∈ commonResources :=
    fun isCommon onWritten => Option.some.inj (onWritten.symm.trans on) ▸ isCommon
  have ofQueries : forall {name : String} {users queries : List String},
      policy ∈ (if "execute" ∈ queries then
        [Access.policy service name queryResources users ["execute"]] else []) ->
        resources ∈ commonResources := by
    intro name users queries isQuery
    split at isQuery
    · obtain rfl := List.mem_singleton.mp isQuery
      exact common (by simp [commonResources]) rfl
    · exact absurd isQuery List.not_mem_nil
  rcases List.mem_append.mp member with fromRole | fromDefaults
  · obtain ⟨role, isUsed, fromRole⟩ := List.mem_flatMap.mp fromRole
    simp only [rolePolicies, List.append_assoc, List.mem_append] at fromRole
    rcases fromRole with access | transforms | query | system
    · left
      have written := List.mem_map_of_mem (f := Policy.resources) access
      rw [on, resources_roleAccessPolicies] at written
      obtain ⟨_, isGrant, same⟩ := List.mem_map.mp written
      exact List.mem_flatMap.mpr ⟨role, isUsed, Option.some.inj same ▸ isGrant⟩
    · rcases List.mem_append.mp transforms with isFilter | isMask
      · obtain ⟨entry, _, rfl⟩ := List.mem_map.mp isFilter
        exact absurd (Option.some.inj (of_decide_eq_true type)) (by decide)
      · obtain ⟨entry, _, rfl⟩ := List.mem_map.mp isMask
        exact absurd (Option.some.inj (of_decide_eq_true type)) (by decide)
    · exact Or.inr (ofQueries query)
    · right
      unfold systemInformationPolicies at system
      split at system
      · exact absurd system List.not_mem_nil
      · obtain rfl := List.mem_singleton.mp system
        exact common (List.mem_cons_of_mem _ List.mem_cons_self) rfl
  · right
    rcases List.mem_append.mp fromDefaults with query | impersonation
    · exact ofQueries query
    · obtain rfl := List.mem_singleton.mp impersonation
      exact common (List.mem_cons_of_mem _ (List.mem_cons_of_mem _ List.mem_cons_self)) rfl

/-- The resources of some policies, each once. -/
def resourcesOf (policies : List Policy) : List Resources :=
  (policies.filterMap Policy.resources).eraseDups

theorem mem_resourcesOf {policies : List Policy} {resources : Resources} :
    resources ∈ resourcesOf policies ↔
      Exists fun policy => policy ∈ policies ∧ policy.resources = some resources := by
  rw [resourcesOf, List.mem_eraseDups, List.mem_filterMap]

/-- The merged policies are on the resources of the policies, each once. -/
theorem resources_mergeMatchingResources
    (digest : Resources -> String)
    (policies : List Policy) :
    Exists fun merged => (mergeMatchingResources digest policies).Perm merged ∧
      merged.map Policy.resources = (resourcesOf policies).map some := by
  refine ⟨_, List.perm_insertionSort _ _, ?_⟩
  rw [List.map_filterMap, ← List.filterMap_eq_map]
  refine List.filterMap_congr fun resources member => ?_
  obtain ⟨policy, isPolicy, on⟩ := mem_resourcesOf.mp member
  have isMatch := mem_policiesOn.mpr ⟨isPolicy, on⟩
  cases group : policiesOn resources policies with
  | nil => simp [group] at isMatch
  | cons template others =>
      have isTemplate : template ∈ policiesOn resources policies := by
        rw [group]
        exact List.mem_cons_self
      exact congrArg some (mem_policiesOn.mp isTemplate).2

theorem accessResources_apart_iff (service : String) (model : RoleModel) :
    ((resourcesOf (accessPolicies service model)).Pairwise fun left right =>
        ¬SameResources left right) ↔
      forall left, left ∈ model.grantResources ->
        forall right, right ∈ model.grantResources -> SameResources left right ->
          left = right := by
  have noKinds : forall {resources : Resources}, resources ∈ commonResources ->
      resources.map Prod.fst ∉ grantKinds := by
    intro resources member
    simp only [commonResources, List.mem_cons, List.not_mem_nil, or_false] at member
    rcases member with rfl | rfl | rfl <;> decide
  have byKinds : forall {left right : Resources}, left ∈ commonResources ->
      right ∈ commonResources -> left.map Prod.fst = right.map Prod.fst -> left = right := by
    intro left right isLeft isRight sameKinds
    simp only [commonResources, List.mem_cons, List.not_mem_nil, or_false] at isLeft isRight
    rcases isLeft with rfl | rfl | rfl <;> rcases isRight with rfl | rfl | rfl <;>
      first | rfl | exact absurd sameKinds (by decide)
  have distinct : (resourcesOf (accessPolicies service model)).Nodup := nodup_eraseDups _
  rw [pairwise_not_iff SameResources SameResources.symm distinct]
  constructor
  · intro single left isLeft right isRight
    exact single left (mem_resourcesOf.mpr (onAccess_of_grant service isLeft)) right
      (mem_resourcesOf.mpr (onAccess_of_grant service isRight))
  · intro single left isLeft right isRight same
    rcases onAccess_cases (mem_resourcesOf.mp isLeft) with leftGrant | leftCommon <;>
      rcases onAccess_cases (mem_resourcesOf.mp isRight) with rightGrant | rightCommon
    · exact single left leftGrant right rightGrant same
    · have kinds := kinds_of_mem_grantResources leftGrant
      rw [same.kinds] at kinds
      exact absurd kinds (noKinds rightCommon)
    · have kinds := kinds_of_mem_grantResources rightGrant
      rw [← same.kinds] at kinds
      exact absurd kinds (noKinds leftCommon)
    · exact byKinds leftCommon rightCommon same.kinds

theorem mergeable_type
    {digest : Resources -> String}
    {service : String}
    {model : RoleModel}
    {policy : Policy}
    (member : policy ∈ mergeMatchingResources digest (accessPolicies service model)) :
    policy.policyType = some 0 := by
  obtain ⟨resources, template, isFirst, rfl⟩ := mem_mergeMatchingResources.mp member
  have isTemplate := (mem_policiesOn.mp (List.mem_of_head? isFirst)).1
  exact of_decide_eq_true (List.mem_filter.mp isTemplate).2

/-- No two compiled policies of one type cover the same resources exactly when the grants
are apart. -/
theorem resources_apart_iff
    (digest : Resources -> String)
    (model : RoleModel)
    (service : String) :
    ((compileRangerPolicies digest model service).Pairwise fun left right =>
        left.policyType = right.policyType -> ¬CoverSame left right) ↔
      GrantsApart model := by
  obtain ⟨merged, isPerm, mergedResources⟩ :=
    resources_mergeMatchingResources digest (accessPolicies service model)
  have mergedType : forall policy, policy ∈ merged -> policy.policyType = some 0 :=
    fun policy member => mergeable_type (isPerm.mem_iff.mpr member)
  have perm : (compileRangerPolicies digest model service).Perm
      (merged ++ transformationPolicies service model) :=
    (List.perm_insertionSort _ _).trans (isPerm.append_right _)
  have symm : forall {left right : Policy},
      (left.policyType = right.policyType -> ¬CoverSame left right) ->
        right.policyType = left.policyType -> ¬CoverSame right left :=
    fun apart same cover => apart same.symm cover.symm
  rw [perm.pairwise_iff symm, pairwise_within_iff Policy.policyType fun left right =>
    ¬CoverSame left right]
  have ofType : forall type,
      (((merged ++ transformationPolicies service model).filter fun policy =>
        policy.policyType = type).Pairwise fun left right => ¬CoverSame left right) ↔
        ((if type = some 0 then resourcesOf (accessPolicies service model) else []) ++
          (usedRoles model.boundRoles).flatMap fun role =>
            role.permissions.transformationResources type).Pairwise fun left right =>
              ¬SameResources left right := by
    intro type
    refine pairwise_coverSame_iff ?_
    rw [List.filter_append, filter_type mergedType, List.map_append, List.map_append,
      resources_transformationPolicies]
    split
    · rw [mergedResources]
    · rfl
  simp only [ofType]
  have none : forall {type : Option Nat}, type ≠ some 1 -> type ≠ some 2 ->
      ((usedRoles model.boundRoles).flatMap fun role =>
        role.permissions.transformationResources type) = [] := by
    intro type notMask notFilter
    simp [RolePermissions.transformationResources, notMask, notFilter]
  constructor
  · intro apart
    refine ⟨?_, ?_, ?_⟩
    · have access := apart (some 0)
      rw [none (by decide) (by decide), List.append_nil] at access
      exact (accessResources_apart_iff service model).mp access
    · simpa [RolePermissions.transformationResources, RoleModel.filterResources]
        using apart (some 2)
    · simpa [RolePermissions.transformationResources, RoleModel.maskResources]
        using apart (some 1)
  · rintro ⟨access, filters, masks⟩ type
    by_cases isAccess : type = some 0
    · subst isAccess
      rw [none (by decide) (by decide), List.append_nil]
      exact (accessResources_apart_iff service model).mpr access
    · by_cases isMask : type = some 1
      · subst isMask
        simpa [RolePermissions.transformationResources, RoleModel.maskResources] using masks
      · by_cases isFilter : type = some 2
        · subst isFilter
          simpa [RolePermissions.transformationResources, RoleModel.filterResources] using filters
        · rw [none isMask isFilter, if_neg isAccess]
          exact List.Pairwise.nil

/-! ## Distinct names -/

/-- A text is taken apart at its last dash. -/
theorem eq_of_last_dash
    {left right leftLast rightLast : String}
    (leftClean : '-' ∉ leftLast.toList)
    (rightClean : '-' ∉ rightLast.toList)
    (same : left ++ "-" ++ leftLast = right ++ "-" ++ rightLast) :
    left = right ∧ leftLast = rightLast := by
  have reversed : leftLast.toList.reverse ++ '-' :: left.toList.reverse =
      rightLast.toList.reverse ++ '-' :: right.toList.reverse := by
    simpa [String.toList_append] using congrArg (fun text => text.toList.reverse) same
  obtain ⟨sameLast, sameFront⟩ := Library.Pattern.eq_of_append_separator
    (by simpa using leftClean) (by simpa using rightClean) reversed
  exact ⟨String.toList_inj.mp (List.reverse_injective sameFront),
    String.toList_inj.mp (List.reverse_injective sameLast)⟩

/-- The kinds of merged policies. -/
inductive MergedKind
  | catalog
  | schema
  | table
  | query
  | system
  | impersonation

/-- The name of a merged policy before its last dash. -/
def MergedKind.front : MergedKind -> String
  | .catalog => "lakehouse-ops-catalog"
  | .schema => "lakehouse-ops-catalog-schema"
  | .table => "lakehouse-ops-catalog-column-schema-table"
  | .query => "lakehouse-ops-query"
  | .system => "lakehouse-ops-system"
  | .impersonation => "lakehouse-ops-self"

theorem MergedKind.front_injective
    {left right : MergedKind}
    (same : left.front = right.front) :
    left = right := by
  cases left <;> cases right <;> first | rfl | exact absurd same (by decide)

/-- The name of the merged policy on some resources after its last dash. -/
inductive NamedBy (digest : Resources -> String) : Resources -> MergedKind -> String -> Prop
  | catalog (resources) : NamedBy digest resources .catalog (digest resources)
  | schema (resources) : NamedBy digest resources .schema (digest resources)
  | table (resources) : NamedBy digest resources .table (digest resources)
  | query : NamedBy digest queryResources .query "execution"
  | system : NamedBy digest systemResources .system "information"
  | impersonation : NamedBy digest selfResources .impersonation "impersonation"

section Names

variable {digest : Resources -> String} {service : String} {model : RoleModel}

theorem namedBy_of_onAccess
    {resources : Resources}
    (onAccess : OnAccess service model resources) :
    Exists fun kind => Exists fun last =>
      NamedBy digest resources kind last ∧
        mergedPolicyName digest resources = kind.front ++ "-" ++ last := by
  rcases onAccess_cases onAccess with isGrant | isCommon
  · have kinds := kinds_of_mem_grantResources isGrant
    have byDigest : forall {keys : List String}, resources.map Prod.fst = keys ->
        keys ≠ ["queryid"] -> keys ≠ ["sysinfo"] -> keys ≠ ["trinouser"] ->
          mergedPolicyName digest resources =
            "lakehouse-ops-" ++ String.intercalate "-" keys ++ "-" ++ digest resources := by
      intro keys areKeys notQuery notSystem notSelf
      unfold mergedPolicyName
      rw [areKeys]
      simp only [if_neg notQuery, if_neg notSystem, if_neg notSelf]
    simp only [grantKinds, List.mem_cons, List.not_mem_nil, or_false] at kinds
    rcases kinds with keys | keys | keys
    · exact ⟨_, _, .catalog resources, byDigest keys (by decide) (by decide) (by decide)⟩
    · exact ⟨_, _, .schema resources, byDigest keys (by decide) (by decide) (by decide)⟩
    · exact ⟨_, _, .table resources, byDigest keys (by decide) (by decide) (by decide)⟩
  · simp only [commonResources, List.mem_cons, List.not_mem_nil, or_false] at isCommon
    rcases isCommon with rfl | rfl | rfl
    · exact ⟨_, _, .query, rfl⟩
    · exact ⟨_, _, .system, rfl⟩
    · exact ⟨_, _, .impersonation, rfl⟩

/-- What a name needs of the digest: its text has no dash. -/
def Dashless (digest : Resources -> String) : Prop :=
  forall resources, '-' ∉ (digest resources).toList

theorem NamedBy.last_dashless
    (dashless : Dashless digest)
    {resources : Resources}
    {kind : MergedKind}
    {last : String}
    (named : NamedBy digest resources kind last) :
    '-' ∉ last.toList := by
  cases named with
  | catalog | schema | table => exact dashless resources
  | query | system | impersonation => decide

/-- The digest tells the resources of the access policies apart. -/
def CollisionFree (digest : Resources -> String) (service : String) (model : RoleModel) : Prop :=
  forall left right, OnAccess service model left -> OnAccess service model right ->
    digest left = digest right -> left = right

/-- Resources with one name are equal when the digest tells them apart. -/
theorem NamedBy.eq_of_same
    {left right : Resources}
    {kind : MergedKind}
    {last : String}
    (collisionFree : digest left = digest right -> left = right)
    (isLeft : NamedBy digest left kind last)
    (isRight : NamedBy digest right kind last) :
    left = right := by
  cases isLeft with
  | catalog | schema | table =>
      generalize same : digest left = last at isRight
      cases isRight
      exact collisionFree same
  | query | system | impersonation =>
      cases isRight
      rfl

theorem eq_of_mergedPolicyName
    (dashless : Dashless digest)
    (collisionFree : CollisionFree digest service model)
    {left right : Resources}
    (leftAccess : OnAccess service model left)
    (rightAccess : OnAccess service model right)
    (same : mergedPolicyName digest left = mergedPolicyName digest right) :
    left = right := by
  obtain ⟨leftKind, leftLast, leftNamed, leftName⟩ := namedBy_of_onAccess leftAccess
  obtain ⟨rightKind, rightLast, rightNamed, rightName⟩ := namedBy_of_onAccess rightAccess
  rw [leftName, rightName] at same
  obtain ⟨sameFront, rfl⟩ := eq_of_last_dash (leftNamed.last_dashless dashless)
    (rightNamed.last_dashless dashless) same
  obtain rfl := MergedKind.front_injective sameFront
  exact leftNamed.eq_of_same (collisionFree left right leftAccess rightAccess) rightNamed

/-- The name of a numbered grant is not that of a merged policy: the words before the
numbers end in other characters. -/
theorem grantName_ne_mergedPolicyName
    (dashless : Dashless digest)
    {resources : Resources}
    (onAccess : OnAccess service model resources)
    {role kind : String}
    (isKind : kind ∈ transformationKinds)
    (index : Nat) :
    grantName role kind index ≠ mergedPolicyName digest resources := by
  intro same
  obtain ⟨merged, last, named, name⟩ := namedBy_of_onAccess onAccess
  rw [name] at same
  have numberDashless : '-' ∉ (toString index).toList := by
    rw [toList_toString]
    exact dash_notMem_digits index
  obtain ⟨sameFront, _⟩ := eq_of_last_dash numberDashless (named.last_dashless dashless) same
  have sameEnd := congrArg (fun text => text.toList.getLast?) sameFront
  have mergedEnd : merged.front.toList.getLast? ∉ [some 'r', some 'k'] := by
    cases merged <;> decide
  have kindEnd : Exists fun last => kind.toList.getLast? = some last ∧
      some last ∈ [some 'r', some 'k'] := by
    simp only [transformationKinds, List.mem_cons, List.not_mem_nil, or_false] at isKind
    rcases isKind with rfl | rfl
    · exact ⟨'r', by decide, by decide⟩
    · exact ⟨'k', by decide, by decide⟩
  obtain ⟨last, isLast, member⟩ := kindEnd
  simp only [String.toList_append, List.getLast?_append, isLast, Option.some_or] at sameEnd
  exact mergedEnd (sameEnd ▸ member)

/-- The compiled policies have distinct names. -/
theorem compile_names_nodup
    (dashless : Dashless digest)
    (collisionFree : CollisionFree digest service model) :
    ((compileRangerPolicies digest model service).map Policy.name).Nodup := by
  have nameOf : forall {policy : Policy},
      policy ∈ mergeMatchingResources digest (accessPolicies service model) ->
        Exists fun resources => policy.resources = some resources ∧
          OnAccess service model resources ∧
            policy.name = mergedPolicyName digest resources := by
    intro policy member
    obtain ⟨resources, template, isFirst, rfl⟩ := mem_mergeMatchingResources.mp member
    obtain ⟨isTemplate, on⟩ := mem_policiesOn.mp (List.mem_of_head? isFirst)
    exact ⟨resources, on, ⟨template, isTemplate, on⟩, rfl⟩
  have merged : ((mergeMatchingResources digest (accessPolicies service model)).map
      Policy.name).Nodup := by
    have apart := mergeMatchingResources_resources_nodup digest (accessPolicies service model)
    rw [List.Nodup, List.pairwise_map] at apart ⊢
    refine apart.imp_of_mem fun {left right} isLeft isRight differ same => ?_
    obtain ⟨leftResources, onLeft, leftAccess, leftName⟩ := nameOf isLeft
    obtain ⟨rightResources, onRight, rightAccess, rightName⟩ := nameOf isRight
    rw [leftName, rightName] at same
    rw [onLeft, onRight] at differ
    exact differ (congrArg some
      (eq_of_mergedPolicyName dashless collisionFree leftAccess rightAccess same))
  have perm : (compileRangerPolicies digest model service).Perm _ := List.perm_insertionSort _ _
  rw [(perm.map Policy.name).nodup_iff, List.map_append, List.nodup_append]
  refine ⟨merged, transformationPolicies_names_nodup service model, ?_⟩
  intro left isLeft right isRight same
  obtain ⟨policy, isPolicy, rfl⟩ := List.mem_map.mp isLeft
  obtain ⟨resources, _, onAccess, name⟩ := nameOf isPolicy
  rw [transformationPolicies_eq, List.map_flatMap] at isRight
  obtain ⟨role, _, isName⟩ := List.mem_flatMap.mp isRight
  obtain ⟨kind, index, isKind, rfl⟩ := exists_kind_of_name isName
  exact grantName_ne_mergedPolicyName dashless onAccess isKind index (same.symm.trans name)

end Names

/-! ## When policies collide -/

/-- The compiled policies do not collide exactly when the grants are apart. -/
theorem compile_collisionless_iff
    {digest : Resources -> String}
    {model : RoleModel}
    {service : String}
    (dashless : Dashless digest)
    (collisionFree : CollisionFree digest service model) :
    Collisionless (compileRangerPolicies digest model service) ↔ GrantsApart model := by
  rw [← resources_apart_iff digest model service]
  exact ⟨Collisionless.resources, fun apart =>
    ⟨compile_names_nodup dashless collisionFree, apart⟩⟩

/-- The digest of one resource. -/
def oneDigest (_ : Resources) : String := "755eb9e4ae"

theorem oneDigest_dashless : Dashless oneDigest := by
  intro resources
  exact (by decide : '-' ∉ "755eb9e4ae".toList)

theorem collisionFree_of_selfAccess
    {model : RoleModel}
    {service : String}
    (onlySelf : (accessPolicies service model).map Policy.resources = [some selfResources]) :
    CollisionFree oneDigest service model := by
  have self : forall {resources : Resources}, OnAccess service model resources ->
      resources = selfResources := by
    rintro resources ⟨policy, member, on⟩
    have listed := List.mem_map_of_mem (f := Policy.resources) member
    rw [onlySelf, on, List.mem_singleton] at listed
    exact Option.some.inj listed
  intro left right isLeft isRight _
  rw [self isLeft, self isRight]

theorem compile_collisionless_iff_filteredReaders :
    Collisionless (compileRangerPolicies oneDigest filteredReaders "trino") ↔
      GrantsApart filteredReaders :=
  compile_collisionless_iff oneDigest_dashless (collisionFree_of_selfAccess (by decide))

/-- Two roles that each filter the rows of the same table. -/
def sharedFilters : RoleModel where
  schemaVersion := "1.0"
  roles :=
    [("auditor", { rowFilters := [northernRows "orders"] }),
      ("planner", { rowFilters := [northernRows "orders"] })]
  distinctRoles := by decide
  bindings :=
    [{ users := ["ada"], roles := ["auditor"] }, { users := ["bo"], roles := ["planner"] }]
  defaults :=
    { catalogAccess := "none", systemCatalogAccess := "none", queries := [],
      systemInformation := [] }

/-- The two filters are two policies on one table. -/
theorem shared_filters_collide :
    ¬ (forall (digest : Resources -> String) (document model : RoleModel) (service : String),
      loadAccessPolicy document = .ok model -> Dashless digest ->
        CollisionFree digest service model ->
          Collisionless (compileRangerPolicies digest model service)) := by
  intro collisionless
  have apart := (collisionless oneDigest sharedFilters sharedFilters "trino" rfl
    oneDigest_dashless (collisionFree_of_selfAccess (by decide))).resources
  have filters := ((resources_apart_iff oneDigest sharedFilters "trino").mp apart).filters
  have written : sharedFilters.filterResources =
      [(northernRows "orders").resources, (northernRows "orders").resources] := by decide
  rw [written, List.pairwise_pair] at filters
  exact filters (SameResources.refl _)

end Access
end LakehouseOps
