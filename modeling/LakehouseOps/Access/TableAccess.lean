import LakehouseOps.Access.TrinoPolicy
import LakehouseOps.Access.RangerRelation

/-!
# Two authorities on tables

The file rules let the first matching grant decide; the policies permit what any
of their items permits. Both are reduced to the grants of the role model, and the
requests on which the two agree are characterised there.
-/

namespace LakehouseOps
namespace Access

open Library.Fallible
open Library.Pattern

/-! ## What the policies permit -/

/-- The access that stands for the privilege in a policy. -/
def TablePrivilege.access : TablePrivilege -> String
  | .select => "select"
  | .insert => "insert"
  | .delete => "delete"
  | .update => "alter"

/-- The item names the user and allows the access, or all of them. -/
def PolicyItem.Allows (item : PolicyItem) (user access : String) : Prop :=
  user ∈ item.users ∧
    Exists fun allowed => allowed ∈ item.accesses ∧
      (allowed.isAllowed = true ∧ (allowed.type = access ∨ allowed.type = "all"))

instance (item : PolicyItem) (user access : String) : Decidable (item.Allows user access) :=
  inferInstanceAs (Decidable (_ ∧ _))

/-- Some value of the resource matches the name. -/
def resourceMatches (resources : Resources) (key name : String) : Bool :=
  match resources.lookup key with
  | none => false
  | some resource => resource.values.any fun value => matchWildcards value.toList name.toList

/-- The policy is on access to tables and its resources match the table. -/
def Policy.appliesToTable (policy : Policy) (table : TableName) : Bool :=
  let resources := policy.resources.getD []
  policy.policyType = some 0 &&
    resourceMatches resources "catalog" table.catalog &&
    resourceMatches resources "schema" table.schema &&
    resourceMatches resources "table" table.table

/-- Ranger's decision on a table: some item of some policy that applies allows it. -/
def rangerAllows
    (policies : List Policy)
    (user : String)
    (table : TableName)
    (privilege : TablePrivilege) : Bool :=
  policies.any fun policy =>
    policy.appliesToTable table &&
      (policy.policyItems.getD []).any fun item => item.Allows user privilege.access

/-- The policies allow the access on the table. -/
def Permitted
    (policies : List Policy)
    (user : String)
    (table : TableName)
    (access : String) : Prop :=
  Exists fun policy => Exists fun item =>
    policy ∈ policies ∧ policy.appliesToTable table = true ∧
      item ∈ policy.policyItems.getD [] ∧ item.Allows user access

theorem rangerAllows_iff
    {policies : List Policy}
    {user : String}
    {table : TableName}
    {privilege : TablePrivilege} :
    rangerAllows policies user table privilege = true ↔
      Permitted policies user table privilege.access := by
  simp only [rangerAllows, List.any_eq_true, Bool.and_eq_true, decide_eq_true_eq]
  constructor
  · rintro ⟨policy, member, applies, item, isItem, allows⟩
    exact ⟨policy, item, member, applies, isItem, allows⟩
  · rintro ⟨policy, item, member, applies, isItem, allows⟩
    exact ⟨policy, member, applies, item, isItem, allows⟩

/-! ### The relation behind the decisions -/

theorem PolicyItem.allows_iff_lists {item : PolicyItem} {user access : String} :
    item.Allows user access ↔ item.Lists user access ∨ item.Lists user "all" := by
  unfold PolicyItem.Allows PolicyItem.Lists
  rw [← and_or_left]
  refine and_congr_right fun _ => ⟨?_, ?_⟩
  · rintro ⟨⟨type, _⟩, isListed, rfl, rfl | rfl⟩
    · exact Or.inl isListed
    · exact Or.inr isListed
  · rintro (isListed | isListed)
    · exact ⟨_, isListed, rfl, Or.inl rfl⟩
    · exact ⟨_, isListed, rfl, Or.inr rfl⟩

theorem accessItem_allows_iff {users accesses : List String} {user access : String} :
    (accessItem users accesses).Allows user access ↔
      user ∈ users ∧ (access ∈ accesses ∨ "all" ∈ accesses) := by
  rw [PolicyItem.allows_iff_lists, accessItem_lists_iff, accessItem_lists_iff, and_or_left]

/-- The resources match the table. -/
def tableMatches (resources : Resources) (table : TableName) : Bool :=
  resourceMatches resources "catalog" table.catalog &&
    resourceMatches resources "schema" table.schema &&
    resourceMatches resources "table" table.table

/-- What applies to a table are the access policies on resources that match it. -/
theorem appliesToTable_iff {policy : Policy} {table : TableName} :
    policy.appliesToTable table = true ↔
      policy.policyType = some 0 ∧
        Exists fun resources =>
          policy.resources = some resources ∧ tableMatches resources table = true := by
  unfold Policy.appliesToTable tableMatches
  simp only [Bool.and_eq_true, decide_eq_true_eq]
  cases policy.resources with
  | none => simp [resourceMatches]
  | some resources => simp [and_assoc]

/-- The decision on a table is by the relation on the resources that match it. -/
theorem permitted_iff_allowedOn
    {policies : List Policy}
    {user access : String}
    {table : TableName} :
    Permitted policies user table access ↔
      Exists fun resources => tableMatches resources table = true ∧
        (AllowedOn policies user resources access ∨
          AllowedOn policies user resources "all") := by
  constructor
  · rintro ⟨policy, item, member, applies, isItem, allows⟩
    obtain ⟨type, resources, on, isMatch⟩ := appliesToTable_iff.mp applies
    refine ⟨resources, isMatch, (PolicyItem.allows_iff_lists.mp allows).imp ?_ ?_⟩
    · exact fun lists => ⟨policy, item, ⟨member, type, on⟩, isItem, lists⟩
    · exact fun lists => ⟨policy, item, ⟨member, type, on⟩, isItem, lists⟩
  · have applies : forall {resources : Resources} {policy : Policy},
        tableMatches resources table = true -> policy.policyType = some 0 ->
          policy.resources = some resources -> policy.appliesToTable table = true :=
      fun isMatch type on => appliesToTable_iff.mpr ⟨type, _, on, isMatch⟩
    rintro ⟨resources, isMatch, byName | byAll⟩
    · obtain ⟨policy, item, ⟨member, type, on⟩, isItem, lists⟩ := byName
      exact ⟨policy, item, member, applies isMatch type on, isItem,
        PolicyItem.allows_iff_lists.mpr (Or.inl lists)⟩
    · obtain ⟨policy, item, ⟨member, type, on⟩, isItem, lists⟩ := byAll
      exact ⟨policy, item, member, applies isMatch type on, isItem,
        PolicyItem.allows_iff_lists.mpr (Or.inr lists)⟩

/-! ### The grants behind the policies -/

/-- Some value is a star or the name itself. -/
def Listed (values : List String) (name : String) : Prop :=
  Exists fun value => value ∈ values ∧ (value = "*" ∨ value = name)

instance (values : List String) (name : String) : Decidable (Listed values name) :=
  inferInstanceAs (Decidable (Exists fun value => value ∈ values ∧ (value = "*" ∨ value = name)))

/-- The grant is bound to the user by the user's own name and is about the table. -/
structure BoundGrant.CoversByName
    (bound : BoundGrant)
    (user : String)
    (table : TableName) : Prop where
  user : user ∈ bound.users
  catalog : Listed bound.grant.catalogs table.catalog
  schema : Listed bound.grant.schemas table.schema
  table : Listed bound.grant.tables table.table

instance (bound : BoundGrant) (user : String) (table : TableName) :
    Decidable (bound.CoversByName user table) :=
  decidable_of_iff
    (user ∈ bound.users ∧ Listed bound.grant.catalogs table.catalog ∧
      Listed bound.grant.schemas table.schema ∧ Listed bound.grant.tables table.table)
    ⟨fun ⟨user, catalog, schema, table⟩ => ⟨user, catalog, schema, table⟩,
      fun ⟨user, catalog, schema, table⟩ => ⟨user, catalog, schema, table⟩⟩

/-- A grant whose names are stars or have no wildcard characters. -/
structure TableGrant.Plain (grant : TableGrant) : Prop where
  catalogs : forall value, value ∈ grant.catalogs -> Library.Pattern.Plain value
  schemas : forall value, value ∈ grant.schemas -> Library.Pattern.Plain value
  tables : forall value, value ∈ grant.tables -> Library.Pattern.Plain value

/-- A model whose grants on tables are plain. -/
def RoleModel.Plain (model : RoleModel) : Prop :=
  forall role, role ∈ model.boundRoles ->
    forall grant, grant ∈ role.permissions.tables -> grant.Plain

theorem accessMapping_eq_access_iff {value : String} {privilege : TablePrivilege} :
    accessMapping value = some privilege.access ↔ value = privilege.name := by
  constructor
  · intro maps
    unfold accessMapping at maps
    split at maps <;> cases privilege <;> simp_all [TablePrivilege.access, TablePrivilege.name]
  · rintro rfl
    cases privilege <;> rfl

theorem accessMapping_ne_all (value : String) : accessMapping value ≠ some "all" := by
  unfold accessMapping
  split <;> simp

/-- The accesses of a grant include that of a privilege, or all, exactly when the grant
carries the privilege. -/
theorem access_mem_tableAccesses_iff {bound : BoundGrant} {privilege : TablePrivilege} :
    (privilege.access ∈ tableAccesses bound.grant.privileges ∨
        "all" ∈ tableAccesses bound.grant.privileges) ↔
      bound.Carries privilege := by
  unfold tableAccesses BoundGrant.Carries
  by_cases owns : "OWNERSHIP" ∈ bound.grant.privileges
  · simp [owns]
  · rw [if_neg owns, mem_sortedSet, mem_sortedSet, List.mem_filterMap, List.mem_filterMap]
    simp [owns, accessMapping_eq_access_iff, accessMapping_ne_all]

/-- The resource of plain values matches the names these list. -/
theorem resourceMatches_iff
    {resources : Resources}
    {key : String}
    {values : List String}
    (found : resources.lookup key = some (resource values))
    (plain : forall value, value ∈ values -> Library.Pattern.Plain value)
    (name : String) :
    resourceMatches resources key name = true ↔ Listed values name := by
  unfold resourceMatches Listed
  rw [found]
  simp only [resource, List.any_eq_true]
  exact exists_congr fun value => and_congr_right fun member =>
    matchWildcards_plain (plain value member) name

/-- The policy of a grant on tables applies to what the grant lists. -/
theorem tablePolicy_appliesToTable_iff
    {service : String}
    {role : BoundRole}
    {grant : TableGrant}
    {index : Nat}
    (plain : grant.Plain)
    (table : TableName) :
    (tablePolicy service role grant index).appliesToTable table = true ↔
      Listed grant.catalogs table.catalog ∧ Listed grant.schemas table.schema ∧
        Listed grant.tables table.table := by
  unfold Policy.appliesToTable
  simp only [Bool.and_eq_true]
  rw [resourceMatches_iff rfl plain.catalogs, resourceMatches_iff rfl plain.schemas,
    resourceMatches_iff rfl plain.tables, and_assoc, and_assoc]
  exact and_iff_right rfl

/-- A policy on no tables applies to none. -/
theorem not_appliesToTable_of_lookup
    {service name : String}
    {resources : Resources}
    {users accesses : List String}
    (noTable : resources.lookup "table" = none)
    (table : TableName) :
    (policy service name resources users accesses).appliesToTable table = false := by
  have unmatched : resourceMatches resources "table" table.table = false := by
    unfold resourceMatches
    rw [noTable]
  unfold Policy.appliesToTable
  change (_ && resourceMatches resources "table" table.table) = false
  rw [unmatched, Bool.and_false]

theorem mem_boundGrants {model : RoleModel} {bound : BoundGrant} :
    bound ∈ model.boundGrants ↔
      Exists fun role => Used model role ∧
        Exists fun grant => grant ∈ role.permissions.tables ∧
          bound = { users := role.users, grant } := by
  simp only [RoleModel.boundGrants, grantsOf, List.mem_flatMap, List.mem_filter, List.mem_map,
    decide_eq_true_eq, Used]
  refine exists_congr fun role => and_congr_right fun _ => exists_congr fun grant => ?_
  rw [eq_comm]

/-- The compiled policies permit what some grant bound to the user by name carries. -/
theorem permitted_compile_iff
    {digest : Resources -> String}
    {model : RoleModel}
    (plain : model.Plain)
    {service user : String}
    {table : TableName}
    {privilege : TablePrivilege} :
    Permitted (compileRangerPolicies digest model service) user table privilege.access ↔
      Exists fun bound => bound ∈ model.boundGrants ∧
        (bound.CoversByName user table ∧ bound.Carries privilege) := by
  have isAccess : forall {compiled : Policy}, compiled.appliesToTable table = true ->
      compiled.policyType = some 0 :=
    fun applies => (appliesToTable_iff.mp applies).1
  have unmerged : Permitted (compileRangerPolicies digest model service) user table
        privilege.access ↔
      Permitted (unmergedPolicies service model) user table privilege.access := by
    simp only [permitted_iff_allowedOn, allowedOn_compile_iff_unmerged]
  rw [unmerged]
  constructor
  · rintro ⟨compiled, item, member, applies, isItem, allows⟩
    rcases unmergedPolicies_cases member with
      ⟨role, grant, index, used, isGrant, rfl⟩ |
      ⟨name, resources, users, accesses, rfl, noTable⟩ |
      ⟨role, index, _, ⟨grant, rfl⟩ | ⟨grant, rfl⟩⟩
    · obtain ⟨catalog, schema, isTable⟩ :=
        (tablePolicy_appliesToTable_iff (plain role used.1 grant isGrant) table).mp applies
      obtain rfl := List.mem_singleton.mp isItem
      obtain ⟨isUser, access⟩ := accessItem_allows_iff.mp allows
      refine ⟨{ users := role.users, grant },
        mem_boundGrants.mpr ⟨role, used, grant, isGrant, rfl⟩,
        ⟨isUser, catalog, schema, isTable⟩, access_mem_tableAccesses_iff.mp access⟩
    · rw [not_appliesToTable_of_lookup noTable] at applies
      exact absurd applies Bool.false_ne_true
    · exact absurd (isAccess applies) (by simp [roleRowFilterPolicy, rowFilterPolicy, managedPolicy])
    · exact absurd (isAccess applies) (by simp [roleColumnMaskPolicy, dataMaskPolicy, managedPolicy])
  · rintro ⟨bound, member, covers, carries⟩
    obtain ⟨role, used, grant, isGrant, rfl⟩ := mem_boundGrants.mp member
    obtain ⟨index, compiled⟩ := tablePolicy_mem_unmergedPolicies service used isGrant
    refine ⟨_, accessItem role.users (tableAccesses grant.privileges), compiled, ?_, List.mem_singleton.mpr rfl, ?_⟩
    · exact (tablePolicy_appliesToTable_iff (plain role used.1 grant isGrant) table).mpr
        ⟨covers.catalog, covers.schema, covers.table⟩
    · exact accessItem_allows_iff.mpr ⟨covers.user, access_mem_tableAccesses_iff.mpr carries⟩

/-! ## Where the two agree -/

/-- The first grant that covers the request speaks for every grant on it: it carries
the privilege when some grant bound to the user by name does, and only then. -/
structure DecidingGrantSpeaksForAll
    (model : RoleModel)
    (user : String)
    (table : TableName)
    (privilege : TablePrivilege) : Prop where
  /-- No grant with the privilege stands behind a deciding grant without it. -/
  notShadowed : forall bound, bound ∈ model.boundGrants ->
    bound.CoversByName user table -> bound.Carries privilege ->
      Exists fun first =>
        model.decidingGrant user table = some first ∧ first.Carries privilege
  /-- The privilege is not only that of the users a star stands for. -/
  notByStar : forall first, model.decidingGrant user table = some first ->
    first.Carries privilege ->
      Exists fun bound => bound ∈ model.boundGrants ∧
        (bound.CoversByName user table ∧ bound.Carries privilege)

/-- The file rules and the policies of a model decide a request alike exactly when the
deciding grant speaks for all. -/
theorem table_decisions_agree_iff
    {digest : Resources -> String}
    {document model : RoleModel}
    {trino : TrinoPolicy}
    (accepted : loadAccessPolicy document = .ok model)
    (compiled : compileTrinoPolicy model = .ok trino)
    (plain : model.Plain)
    (service user : String)
    (table : TableName)
    (privilege : TablePrivilege) :
    trino.allows user table privilege =
        rangerAllows (compileRangerPolicies digest model service) user table privilege ↔
      DecidingGrantSpeaksForAll model user table privilege := by
  obtain ⟨_, _, _, _, valid⟩ := loadAccessPolicy_eq_ok_iff.mp accepted
  rw [Bool.eq_iff_iff, allows_iff_decidingGrant valid compiled, rangerAllows_iff,
    permitted_compile_iff plain]
  constructor
  · intro same
    exact ⟨fun bound member covers carries => same.mpr ⟨bound, member, covers, carries⟩,
      fun first decides carries => same.mp ⟨first, decides, carries⟩⟩
  · intro speaks
    constructor
    · rintro ⟨first, decides, carries⟩
      exact speaks.notByStar first decides carries
    · rintro ⟨bound, member, covers, carries⟩
      exact speaks.notShadowed bound member covers carries

/-- A grant on the tables of one schema. -/
def goldGrant (privileges : List String) : TableGrant where
  catalogs := ["lakehouse"]
  schemas := ["gold"]
  tables := ["*"]
  privileges := privileges

/-- Two roles on the tables of one schema, the first to read and the second to write,
and a user with both. -/
def readerAndWriter : RoleModel where
  schemaVersion := "1.0"
  roles :=
    [("reader", { tables := [goldGrant ["SELECT"]] }),
      ("writer", { tables := [goldGrant ["INSERT"]] })]
  distinctRoles := by decide
  bindings := [{ users := ["analyst"], roles := ["reader", "writer"] }]
  defaults :=
    { catalogAccess := "none", systemCatalogAccess := "none", queries := [],
      systemInformation := [] }

def dailySales : TableName :=
  { catalog := "lakehouse", schema := "gold", table := "daily_sales" }

theorem readerAndWriter_plain : readerAndWriter.Plain := by
  have names : forall value, value ∈ ["lakehouse", "gold", "*"] -> Library.Pattern.Plain value := by
    decide
  have plain : forall privileges : List String, (goldGrant privileges).Plain :=
    fun privileges => ⟨by simpa [goldGrant] using names "lakehouse" (by decide),
      by simpa [goldGrant] using names "gold" (by decide),
      by simpa [goldGrant] using names "*" (by decide)⟩
  intro role isRole grant isGrant
  simp only [RoleModel.boundRoles, readerAndWriter, List.map_cons, List.map_nil, List.mem_cons,
    List.not_mem_nil, or_false] at isRole
  rcases isRole with rfl | rfl <;> obtain rfl := List.mem_singleton.mp isGrant <;>
    exact plain _

/-- The user may read, on both sides. -/
theorem table_decisions_agree_reader :
    Exists fun trino => compileTrinoPolicy readerAndWriter = .ok trino ∧
      (trino.allows "analyst" dailySales .select =
          rangerAllows (compileRangerPolicies (fun _ => "755eb9e4ae") readerAndWriter "trino")
            "analyst" dailySales .select ↔
        DecidingGrantSpeaksForAll readerAndWriter "analyst" dailySales .select) :=
  ⟨_, rfl,
    table_decisions_agree_iff
      (show loadAccessPolicy readerAndWriter = .ok readerAndWriter from rfl) rfl
      readerAndWriter_plain "trino" "analyst" dailySales .select⟩

/-- The user may write by the policies and not by the file rules. -/
theorem writer_behind_reader :
    ¬ (forall (digest : Resources -> String) (document model : RoleModel) (trino : TrinoPolicy),
      loadAccessPolicy document = .ok model -> compileTrinoPolicy model = .ok trino ->
        model.Plain ->
          forall (service user : String) (table : TableName) (privilege : TablePrivilege),
            trino.allows user table privilege =
              rangerAllows (compileRangerPolicies digest model service) user table privilege) := by
  intro agree
  have same := agree (fun _ => "755eb9e4ae") readerAndWriter readerAndWriter _ rfl rfl
    readerAndWriter_plain "trino" "analyst" dailySales .insert
  exact absurd same (by decide)

end Access
end LakehouseOps
