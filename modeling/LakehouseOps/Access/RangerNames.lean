import Mathlib.Data.List.Sigma
import LakehouseOps.Library.Pattern
import LakehouseOps.Access.RangerSync

/-!
# Telling compiled policies apart

Every compiled policy is managed, and no two compiled policies look the same:
merged policies are on different resources, and the numbered grants of the roles
give different names.
-/

namespace LakehouseOps
namespace Access

/-! ## Managed policies -/

theorem managed_of_mem_unmergedPolicies
    {service : String}
    {model : RoleModel}
    {compiled : Policy}
    (member : compiled ∈ unmergedPolicies service model) :
    compiled.description = some managedDescription := by
  rcases unmergedPolicies_cases member with ⟨role, grant, index, _, _, rfl⟩ |
    ⟨name, resources, users, accesses, rfl, _⟩ | ⟨role, index, _, ⟨grant, rfl⟩ | ⟨grant, rfl⟩⟩
  · rfl
  · rfl
  · rfl
  · rfl

/-- Every compiled policy is managed. -/
theorem managed_of_mem_compile
    {digest : Resources -> String}
    {model : RoleModel}
    {service : String}
    {compiled : Policy}
    (member : compiled ∈ compileRangerPolicies digest model service) :
    compiled.description = some managedDescription := by
  unfold compileRangerPolicies at member
  rw [mem_sortedByName, List.mem_append] at member
  rcases member with merged | transformation
  · obtain ⟨resources, template, isFirst, rfl⟩ := mem_mergeMatchingResources.mp merged
    have original := (mem_policiesOn.mp (List.mem_of_head? isFirst)).1
    change template.description = some managedDescription
    exact managed_of_mem_unmergedPolicies (List.mem_filter.mp original).1
  · exact managed_of_mem_unmergedPolicies (List.mem_filter.mp transformation).1

/-! ## Names of numbered grants -/

/-- The digits of a number. -/
def digits (index : Nat) : List Char :=
  Nat.toDigits 10 index

theorem dash_notMem_digits (index : Nat) : '-' ∉ digits index := by
  intro member
  have isDigit := Nat.isDigit_of_mem_toDigits (by decide) (by decide) member
  exact absurd isDigit (by decide)

theorem digits_injective {left right : Nat} (same : digits left = digits right) : left = right := by
  rw [← Nat.ofDigitChars_toDigits (b := 10) (n := left) (by decide) (by decide),
    ← Nat.ofDigitChars_toDigits (b := 10) (n := right) (by decide) (by decide)]
  exact congrArg (fun characters => Nat.ofDigitChars 10 characters 0) same

theorem toList_toString (index : Nat) : (toString index).toList = digits index := by
  change (String.ofList (Nat.toDigits 10 index)).toList = _
  rw [String.toList_ofList]
  rfl

/-- A numbered name, read from its end. -/
theorem grantName_reverse (role kind : String) (index : Nat) :
    (grantName role kind index).toList.reverse =
      (digits index).reverse ++ '-' ::
        (kind.toList.reverse ++ '-' ::
          (role.toList.reverse ++ "lakehouse-ops-".toList.reverse)) := by
  unfold grantName
  simp only [String.toList_append, toList_toString, List.reverse_append]
  simp

/-- The two kinds of numbered names. -/
def transformationKinds : List String :=
  ["row-filter", "column-mask"]

/-- A numbered name tells the role, the kind and the number. -/
theorem grantName_injective
    {leftRole rightRole leftKind rightKind : String}
    {leftIndex rightIndex : Nat}
    (isLeftKind : leftKind ∈ transformationKinds)
    (isRightKind : rightKind ∈ transformationKinds)
    (same : grantName leftRole leftKind leftIndex = grantName rightRole rightKind rightIndex) :
    leftRole = rightRole ∧ leftKind = rightKind ∧ leftIndex = rightIndex := by
  have reversed := congrArg (fun name => name.toList.reverse) same
  simp only [grantName_reverse] at reversed
  obtain ⟨sameDigits, sameRest⟩ := Library.Pattern.eq_of_append_separator
    (by simpa using dash_notMem_digits leftIndex)
    (by simpa using dash_notMem_digits rightIndex) reversed
  have sameIndex := digits_injective (List.reverse_injective sameDigits)
  -- The last word of a kind tells which kind it is.
  have sameKind : leftKind = rightKind := by
    simp only [transformationKinds, List.mem_cons, List.not_mem_nil, or_false]
      at isLeftKind isRightKind
    rcases isLeftKind with rfl | rfl <;> rcases isRightKind with rfl | rfl
    · rfl
    · exact absurd (List.cons.inj sameRest).1 (by decide)
    · exact absurd (List.cons.inj sameRest).1 (by decide)
    · rfl
  subst sameKind
  have sameRole := List.append_cancel_left sameRest
  have sameRoleText := List.append_cancel_right (List.cons.inj sameRole).2
  exact ⟨String.toList_inj.mp (List.reverse_injective sameRoleText), rfl, sameIndex⟩

/-! ## No two compiled policies look the same -/

/-- The transformations are those of the used roles. -/
theorem transformationPolicies_eq (service : String) (model : RoleModel) :
    transformationPolicies service model =
      (model.boundRoles.filter fun role => role.users ≠ []).flatMap
        (roleTransformations service) := by
  have ofAccess : forall {policies : List Policy},
      (forall compiled, compiled ∈ policies -> compiled.policyType = some 0) ->
        (policies.filter fun compiled =>
          compiled.policyType = some 1 ∨ compiled.policyType = some 2) = [] := by
    intro policies access
    refine List.filter_eq_nil_iff.mpr fun compiled member => ?_
    simp [access compiled member]
  have roleAccess : forall role, forall compiled, compiled ∈ roleAccessPolicies service role ->
      compiled.policyType = some 0 := by
    intro role compiled member
    simp only [roleAccessPolicies, List.append_assoc, List.mem_append, List.mem_map] at member
    rcases member with ⟨_, _, rfl⟩ | ⟨_, _, rfl⟩ | ⟨_, _, rfl⟩ <;> rfl
  have roleQueries : forall role, forall compiled, compiled ∈ queryPolicies service role ->
      compiled.policyType = some 0 := by
    intro role compiled member
    unfold queryPolicies at member
    split at member
    · obtain rfl := List.mem_singleton.mp member
      rfl
    · exact absurd member List.not_mem_nil
  have roleSystem : forall role, forall compiled,
      compiled ∈ systemInformationPolicies service role -> compiled.policyType = some 0 := by
    intro role compiled member
    unfold systemInformationPolicies at member
    split at member
    · exact absurd member List.not_mem_nil
    · obtain rfl := List.mem_singleton.mp member
      rfl
  have common : forall compiled, compiled ∈ commonPolicies service model ->
      compiled.policyType = some 0 := by
    intro compiled member
    rcases List.mem_append.mp member with query | impersonation
    · split at query
      · obtain rfl := List.mem_singleton.mp query
        rfl
      · exact absurd query List.not_mem_nil
    · obtain rfl := List.mem_singleton.mp impersonation
      rfl
  have transformations : forall role,
      ((roleTransformations service role).filter fun compiled =>
        compiled.policyType = some 1 ∨ compiled.policyType = some 2) =
        roleTransformations service role := by
    intro role
    refine List.filter_eq_self.mpr fun compiled member => ?_
    rcases List.mem_append.mp member with filters | masks
    · obtain ⟨_, _, rfl⟩ := List.mem_map.mp filters
      rfl
    · obtain ⟨_, _, rfl⟩ := List.mem_map.mp masks
      rfl
  unfold transformationPolicies unmergedPolicies
  rw [List.filter_append, ofAccess common, List.append_nil, List.filter_flatMap]
  refine List.flatMap_congr fun role _ => ?_
  unfold rolePolicies
  rw [List.filter_append, List.filter_append, List.filter_append, ofAccess (roleAccess role),
    ofAccess (roleQueries role), ofAccess (roleSystem role), transformations, List.nil_append,
    List.append_nil, List.append_nil]

/-- The names of the transformations of a role. -/
theorem roleTransformations_names (service : String) (role : BoundRole) :
    (roleTransformations service role).map Policy.name =
      ((role.permissions.rowFilters.zipIdx 1).map Prod.snd).map (grantName role.name "row-filter") ++
        ((role.permissions.columnMasks.zipIdx 1).map Prod.snd).map
          (grantName role.name "column-mask") := by
  unfold roleTransformations
  rw [List.map_append, List.map_map, List.map_map, List.map_map, List.map_map]
  rfl

/-- A name of a transformation tells its role. -/
theorem exists_kind_of_name
    {service name : String}
    {role : BoundRole}
    (member : name ∈ (roleTransformations service role).map Policy.name) :
    Exists fun kind => Exists fun index =>
      kind ∈ transformationKinds ∧ name = grantName role.name kind index := by
  rw [roleTransformations_names] at member
  rcases List.mem_append.mp member with filters | masks
  · obtain ⟨index, _, rfl⟩ := List.mem_map.mp filters
    exact ⟨_, index, by decide, rfl⟩
  · obtain ⟨index, _, rfl⟩ := List.mem_map.mp masks
    exact ⟨_, index, by decide, rfl⟩

theorem roleTransformations_names_nodup (service : String) (role : BoundRole) :
    ((roleTransformations service role).map Policy.name).Nodup := by
  have numbered : forall {Grant : Type} (grants : List Grant) {kind : String},
      kind ∈ transformationKinds ->
        (((grants.zipIdx 1).map Prod.snd).map (grantName role.name kind)).Nodup := by
    intro Grant grants kind isKind
    refine List.Nodup.map (fun left right same => ?_) ?_
    · exact (grantName_injective isKind isKind same).2.2
    · rw [List.zipIdx_map_snd]
      exact List.nodup_range' 1
  rw [roleTransformations_names, List.nodup_append]
  refine ⟨numbered _ (by decide), numbered _ (by decide), ?_⟩
  intro left isLeft right isRight same
  obtain ⟨leftIndex, _, rfl⟩ := List.mem_map.mp isLeft
  obtain ⟨rightIndex, _, rfl⟩ := List.mem_map.mp isRight
  exact absurd (grantName_injective (by decide) (by decide) same).2.1 (by decide)

/-- The transformations have distinct names. -/
theorem transformationPolicies_names_nodup (service : String) (model : RoleModel) :
    ((transformationPolicies service model).map Policy.name).Nodup := by
  rw [transformationPolicies_eq, List.map_flatMap, List.nodup_flatMap]
  refine ⟨fun role _ => roleTransformations_names_nodup service role, ?_⟩
  have apart : (model.boundRoles.filter fun role => role.users ≠ []).Pairwise
      fun left right => left.name ≠ right.name := by
    have names : (model.boundRoles.map BoundRole.name).Nodup := by
      unfold RoleModel.boundRoles
      rw [List.map_map]
      exact model.distinctRoles
    rw [List.Nodup, List.pairwise_map] at names
    exact names.sublist List.filter_sublist
  refine apart.imp fun {left right} differ => ?_
  intro name isLeft isRight
  obtain ⟨leftKind, leftIndex, isLeftKind, leftName⟩ := exists_kind_of_name isLeft
  obtain ⟨rightKind, rightIndex, isRightKind, rightName⟩ := exists_kind_of_name isRight
  exact differ (grantName_injective isLeftKind isRightKind (leftName.symm.trans rightName)).1

theorem nodup_eraseDups {Value : Type} [BEq Value] [LawfulBEq Value] (values : List Value) :
    values.eraseDups.Nodup := by
  match values with
  | [] => exact List.nodup_nil
  | head :: rest =>
      rw [List.eraseDups_cons, List.nodup_cons, List.mem_eraseDups]
      exact ⟨by simp, nodup_eraseDups (rest.filter fun value => !value == head)⟩
  termination_by values.length
  decreasing_by exact Nat.lt_succ_of_le (List.length_filter_le _ _)

/-- The merged policies are on distinct resources. -/
theorem mergeMatchingResources_resources_nodup
    (digest : Resources -> String)
    (policies : List Policy) :
    ((mergeMatchingResources digest policies).map Policy.resources).Nodup := by
  have perm : (mergeMatchingResources digest policies).Perm _ := List.perm_insertionSort _ _
  rw [(perm.map Policy.resources).nodup_iff, List.Nodup, List.pairwise_map,
    List.pairwise_filterMap]
  have apart : (policies.filterMap Policy.resources).eraseDups.Nodup := nodup_eraseDups _
  have resourcesOf : forall {resources : Resources} {merged : Policy},
      (policiesOn resources policies).head?.map
          (fun template => mergedPolicy digest resources template (policiesOn resources policies)) =
        some merged -> merged.resources = some resources := by
    intro resources merged isMerged
    obtain ⟨template, isFirst, rfl⟩ := Option.map_eq_some_iff.mp isMerged
    exact (mem_policiesOn.mp (List.mem_of_head? isFirst)).2
  refine apart.imp fun differ left isLeft right isRight same => ?_
  rw [resourcesOf isLeft, resourcesOf isRight] at same
  exact differ (Option.some.inj same)

/-- No two compiled policies look the same. -/
theorem compile_projections_nodup
    (digest : Resources -> String)
    (model : RoleModel)
    (service : String) :
    ((compileRangerPolicies digest model service).map policyProjection).Nodup := by
  have perm : (compileRangerPolicies digest model service).Perm _ := List.perm_insertionSort _ _
  rw [(perm.map policyProjection).nodup_iff, List.map_append, List.nodup_append]
  have merged : ((mergeMatchingResources digest (accessPolicies service model)).map
      policyProjection).Nodup := by
    have apart := mergeMatchingResources_resources_nodup digest (accessPolicies service model)
    rw [List.Nodup, List.pairwise_map] at apart ⊢
    exact apart.imp fun differ same => differ (congrArg PolicyProjection.resources same)
  have transformations : ((transformationPolicies service model).map policyProjection).Nodup := by
    have apart := transformationPolicies_names_nodup service model
    rw [List.Nodup, List.pairwise_map] at apart ⊢
    exact apart.imp fun differ same => differ (congrArg PolicyProjection.name same)
  refine ⟨merged, transformations, ?_⟩
  intro left isLeft right isRight same
  obtain ⟨access, isAccess, rfl⟩ := List.mem_map.mp isLeft
  obtain ⟨transformation, isTransformation, rfl⟩ := List.mem_map.mp isRight
  have sameType : access.policyType = transformation.policyType :=
    congrArg PolicyProjection.policyType same
  obtain ⟨resources, template, isFirst, rfl⟩ := mem_mergeMatchingResources.mp isAccess
  have isTemplate := (mem_policiesOn.mp (List.mem_of_head? isFirst)).1
  have templateType : template.policyType = some 0 := by
    simpa using (List.mem_filter.mp isTemplate).2
  have otherType := (List.mem_filter.mp isTransformation).2
  rw [← sameType] at otherType
  change decide (template.policyType = some 1 ∨ template.policyType = some 2) = true at otherType
  simp [templateType] at otherType

end Access
end LakehouseOps
