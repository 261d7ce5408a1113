import LakehouseOps.Access.TableAccess

/-!
# What the file rules permit

For each kind of object, the first rule that applies says what a user may do.
Whatever that is, some role bound to the user grants it on the object, or it is one
of the defaults of the model.
-/

namespace LakehouseOps
namespace Access

open Library.Pattern

/-! ## What the rules permit -/

/-- Whether the rule is about the user. A rule without a pattern is about all. -/
def matchesUser (expression : Option String) (user : String) : Bool :=
  expression.all fun expression => fullMatch expression user

def CatalogRule.appliesTo (rule : CatalogRule) (user catalog : String) : Bool :=
  matchesUser rule.user user && fullMatch rule.catalog catalog

/-- The level of access to a catalog, if any rule is about it. -/
def TrinoPolicy.catalogAccess (policy : TrinoPolicy) (user catalog : String) : Option String :=
  (policy.catalogs.find? fun rule => rule.appliesTo user catalog).map CatalogRule.allow

structure SchemaName where
  catalog : String
  schema : String
  deriving DecidableEq

def SchemaRule.appliesTo (rule : SchemaRule) (user : String) (schema : SchemaName) : Bool :=
  matchesUser rule.user user && fullMatch rule.catalog schema.catalog &&
    fullMatch rule.schema schema.schema

/-- Whether the user owns a schema. -/
def TrinoPolicy.ownsSchema
    (policy : TrinoPolicy)
    (user : String)
    (schema : SchemaName) : Bool :=
  (policy.schemas.find? fun rule => rule.appliesTo user schema).any SchemaRule.owner

/-- The privileges on a table. -/
def TrinoPolicy.tablePrivileges
    (policy : TrinoPolicy)
    (user : String)
    (table : TableName) : List String :=
  ((policy.tables.find? fun rule => rule.appliesTo user table).map TableRule.privileges).getD []

/-- What the first rule that is about the user allows. -/
def allowedBy (rules : List AllowRule) (user : String) : List String :=
  ((rules.find? fun rule => matchesUser rule.user user).map AllowRule.allow).getD []

/-- The accesses to queries. -/
def TrinoPolicy.queryAccess (policy : TrinoPolicy) (user : String) : List String :=
  allowedBy policy.queries user

/-- The accesses to system information. -/
def TrinoPolicy.systemAccess (policy : TrinoPolicy) (user : String) : List String :=
  allowedBy policy.systemInformation user

/-! ## What the model grants -/

/-- Some binding assigns the role to the user, by name or by a star. -/
def RoleModel.BoundTo (model : RoleModel) (role user : String) : Prop :=
  Exists fun binding =>
    binding ∈ model.bindings ∧ role ∈ binding.roles ∧ Listed binding.users user

/-- Some role bound to the user permits what the condition says. -/
def RoleModel.Grants
    (model : RoleModel)
    (user : String)
    (permits : RolePermissions -> Prop) : Prop :=
  Exists fun entry =>
    entry ∈ model.roles ∧ model.BoundTo entry.1 user ∧ permits entry.2

/-- The permissions have the level of access to the catalog. -/
def RolePermissions.PermitsCatalog
    (permissions : RolePermissions)
    (catalog level : String) : Prop :=
  Exists fun grant =>
    grant ∈ permissions.catalogs ∧ Listed grant.catalogs catalog ∧ grant.access = level

/-- The permissions make their users owners of the schema. -/
def RolePermissions.PermitsOwnership
    (permissions : RolePermissions)
    (schema : SchemaName) : Prop :=
  Exists fun grant =>
    grant ∈ permissions.schemas ∧ Listed grant.catalogs schema.catalog ∧
      Listed grant.schemas schema.schema ∧ grant.owner = true

/-- The permissions have the privilege on the table. -/
def RolePermissions.PermitsTable
    (permissions : RolePermissions)
    (table : TableName)
    (privilege : String) : Prop :=
  Exists fun grant =>
    grant ∈ permissions.tables ∧ Listed grant.catalogs table.catalog ∧
      Listed grant.schemas table.schema ∧ Listed grant.tables table.table ∧
        privilege ∈ grant.privileges

/-- The default level of access to a catalog. -/
def Defaults.catalogLevel (defaults : Defaults) (catalog : String) : String :=
  if catalog = "system" then defaults.systemCatalogAccess else defaults.catalogAccess

/-- Everything the user obtains from the rules is granted on the same object by a role
bound to the user, or is a default. -/
structure NeverOverGrants
    (model : RoleModel)
    (policy : TrinoPolicy)
    (user : String) : Prop where
  catalogs : forall catalog level, policy.catalogAccess user catalog = some level ->
    (model.Grants user fun permissions => permissions.PermitsCatalog catalog level) ∨
      level = model.defaults.catalogLevel catalog
  schemas : forall schema, policy.ownsSchema user schema = true ->
    model.Grants user fun permissions => permissions.PermitsOwnership schema
  tables : forall table privilege, privilege ∈ policy.tablePrivileges user table ->
    model.Grants user fun permissions => permissions.PermitsTable table privilege
  queries : forall access, access ∈ policy.queryAccess user ->
    (model.Grants user fun permissions => access ∈ permissions.queries.getD []) ∨
      access ∈ model.defaults.queries
  systemInformation : forall access, access ∈ policy.systemAccess user ->
    (model.Grants user fun permissions => access ∈ permissions.systemInformation.getD []) ∨
      access ∈ model.defaults.systemInformation

/-- The user obtains the defaults and nothing else. -/
structure OnlyDefaults (defaults : Defaults) (policy : TrinoPolicy) (user : String) : Prop where
  catalogs : forall catalog level, policy.catalogAccess user catalog = some level ->
    level = defaults.catalogLevel catalog
  schemas : forall schema, policy.ownsSchema user schema = false
  tables : forall table, policy.tablePrivileges user table = []
  queries : forall access, access ∈ policy.queryAccess user -> access ∈ defaults.queries
  systemInformation : forall access,
    access ∈ policy.systemAccess user -> access ∈ defaults.systemInformation

/-! ## The rules of a role -/

theorem listed_of_denotes {value name : String} (denotes : Denotes value name) :
    value = "*" ∨ value = name := by
  unfold Denotes at denotes
  split at denotes
  · exact Or.inl ‹_›
  · exact Or.inr denotes

/-- What an expression for some values matches is listed among them. -/
theorem listed_of_fullMatch
    {values : List String}
    (present : values ≠ [])
    {name : String}
    (isMatch : fullMatch (alternatives values) name = true) :
    Listed values name := by
  obtain ⟨value, member, denotes⟩ := (fullMatch_alternatives present name).mp isMatch
  exact ⟨value, member, listed_of_denotes denotes⟩

/-- A role of the model whose pattern matches a user is bound to the user. -/
theorem boundTo_of_fullMatch
    {model : RoleModel}
    {role : BoundRole}
    (isUsed : role ∈ usedRoles model.boundRoles)
    {user : String}
    (isMatch : fullMatch (alternatives role.users) user = true) :
    Exists fun entry =>
      entry ∈ model.roles ∧ model.BoundTo entry.1 user ∧ role.permissions = entry.2 := by
  obtain ⟨isRole, hasUsers⟩ := mem_usedRoles.mp isUsed
  obtain ⟨bound, isBound, named⟩ := listed_of_fullMatch hasUsers isMatch
  obtain ⟨entry, isEntry, rfl⟩ := List.mem_map.mp isRole
  obtain ⟨binding, isBinding, assigned, isUser⟩ := mem_usersByRole.mp isBound
  exact ⟨entry, isEntry, ⟨binding, isBinding, assigned, bound, isUser, named⟩, rfl⟩

/-- What a role permits whose pattern matches the user is granted to the user. -/
theorem grants_of_fullMatch
    {model : RoleModel}
    {role : BoundRole}
    (isUsed : role ∈ usedRoles model.boundRoles)
    {user : String}
    (isMatch : fullMatch (alternatives role.users) user = true)
    {permits : RolePermissions -> Prop}
    (permitted : permits role.permissions) :
    model.Grants user permits := by
  obtain ⟨entry, isEntry, bound, same⟩ := boundTo_of_fullMatch isUsed isMatch
  exact ⟨entry, isEntry, bound, same ▸ permitted⟩

/-- Rules of which the first that applies decides: it is one of the front, or the first
of the rest. -/
theorem find_append_cases
    {Rule : Type}
    {applies : Rule -> Bool}
    {front rest : List Rule}
    {rule : Rule}
    (found : (front ++ rest).find? applies = some rule) :
    (rule ∈ front ∧ applies rule = true) ∨ rest.find? applies = some rule := by
  rw [List.find?_append, Option.or_eq_some_iff] at found
  rcases found with inFront | ⟨_, inRest⟩
  · exact Or.inl ⟨List.mem_of_find?_eq_some inFront, List.find?_some inFront⟩
  · exact Or.inr inRest

/-! ## Nothing beyond the grants and the defaults -/

/-- The rules of a model that compiles. -/
def RoleModel.fileRules (model : RoleModel) : TrinoPolicy :=
  appendDefaults (rulesOf (usedRoles model.boundRoles)) model.defaults

section Granted

variable {model : RoleModel} {user : String}

/-- Every used role names what its grants are about. -/
def NamedRoles (model : RoleModel) : Prop :=
  forall role, role ∈ usedRoles model.boundRoles -> role.permissions.Named

theorem fullMatch_system (catalog : String) :
    fullMatch "system" catalog = true ↔ catalog = "system" := by
  have same := fullMatch_alternatives (List.cons_ne_nil "system" []) catalog
  have expression : alternatives ["system"] = "system" := by decide
  rw [expression] at same
  have denotes : Denotes "system" catalog ↔ catalog = "system" := by
    unfold Denotes
    rw [if_neg (by decide), eq_comm]
  rw [same, ← denotes]
  constructor
  · rintro ⟨value, member, named⟩
    obtain rfl := List.mem_singleton.mp member
    exact named
  · intro named
    exact ⟨"system", List.mem_singleton.mpr rfl, named⟩

/-- Of the two default rules on catalogs the first is about the system catalog alone. -/
theorem allow_of_defaultCatalogRules
    {defaults : Defaults}
    {catalog : String}
    {rule : CatalogRule}
    (found : [({ catalog := "system", allow := defaults.systemCatalogAccess } : CatalogRule),
        { catalog := ".*", allow := defaults.catalogAccess }].find?
          (fun rule => rule.appliesTo user catalog) = some rule) :
    rule.allow = defaults.catalogLevel catalog := by
  have applies : CatalogRule.appliesTo
      { catalog := "system", allow := defaults.systemCatalogAccess } user catalog =
        fullMatch "system" catalog := Bool.true_and _
  rw [List.find?_cons, applies] at found
  unfold Defaults.catalogLevel
  cases system : fullMatch "system" catalog with
  | true =>
      rw [system] at found
      rw [if_pos ((fullMatch_system catalog).mp system), ← Option.some.inj found]
  | false =>
      rw [system] at found
      obtain rfl := List.mem_singleton.mp (List.mem_of_find?_eq_some found)
      rw [if_neg (mt (fullMatch_system catalog).mpr (by simp [system]))]

theorem catalogAccess_granted
    (named : NamedRoles model)
    {catalog level : String}
    (obtained : model.fileRules.catalogAccess user catalog = some level) :
    (model.Grants user fun permissions => permissions.PermitsCatalog catalog level) ∨
      level = model.defaults.catalogLevel catalog := by
  obtain ⟨rule, found, rfl⟩ := Option.map_eq_some_iff.mp obtained
  rcases find_append_cases found with ⟨fromRole, applies⟩ | default
  · obtain ⟨role, isUsed, isRule⟩ := List.mem_flatMap.mp fromRole
    obtain ⟨grant, isGrant, rfl⟩ := List.mem_map.mp isRule
    obtain ⟨byUser, byCatalog⟩ := Bool.and_eq_true_iff.mp applies
    have present := ((named role isUsed).catalogs grant isGrant).present
    exact Or.inl (grants_of_fullMatch isUsed byUser
      ⟨grant, isGrant, listed_of_fullMatch present byCatalog, rfl⟩)
  · exact Or.inr (allow_of_defaultCatalogRules default)

theorem ownsSchema_granted
    (named : NamedRoles model)
    {schema : SchemaName}
    (owns : model.fileRules.ownsSchema user schema = true) :
    model.Grants user fun permissions => permissions.PermitsOwnership schema := by
  obtain ⟨rule, found, owner⟩ := (Option.any_eq_true _ _).mp owns
  rcases find_append_cases found with ⟨fromRole, applies⟩ | default
  · obtain ⟨role, isUsed, isRule⟩ := List.mem_flatMap.mp fromRole
    obtain ⟨grant, isGrant, rfl⟩ := List.mem_map.mp isRule
    simp only [SchemaRule.appliesTo, Bool.and_eq_true] at applies
    obtain ⟨⟨byUser, byCatalog⟩, bySchema⟩ := applies
    obtain ⟨catalogs, schemas⟩ := (named role isUsed).schemas grant isGrant
    exact grants_of_fullMatch isUsed byUser
      ⟨grant, isGrant, listed_of_fullMatch catalogs.present byCatalog,
        listed_of_fullMatch schemas.present bySchema, owner⟩
  · obtain rfl := List.mem_singleton.mp (List.mem_of_find?_eq_some default)
    exact absurd owner Bool.false_ne_true

theorem tablePrivileges_granted
    (named : NamedRoles model)
    {table : TableName}
    {privilege : String}
    (obtained : privilege ∈ model.fileRules.tablePrivileges user table) :
    model.Grants user fun permissions => permissions.PermitsTable table privilege := by
  unfold TrinoPolicy.tablePrivileges at obtained
  cases found : model.fileRules.tables.find? fun rule => rule.appliesTo user table with
  | none => simp [found] at obtained
  | some rule =>
      rw [found, Option.map_some, Option.getD_some] at obtained
      rcases find_append_cases found with ⟨fromRole, applies⟩ | default
      · obtain ⟨role, isUsed, isRule⟩ := List.mem_flatMap.mp fromRole
        obtain ⟨grant, isGrant, rfl⟩ := List.mem_map.mp isRule
        simp only [TableRule.appliesTo, Bool.and_eq_true] at applies
        obtain ⟨⟨⟨byUser, byCatalog⟩, bySchema⟩, byTable⟩ := applies
        obtain ⟨catalogs, schemas, tables⟩ := (named role isUsed).tables grant isGrant
        exact grants_of_fullMatch isUsed byUser
          ⟨grant, isGrant, listed_of_fullMatch catalogs.present byCatalog,
            listed_of_fullMatch schemas.present bySchema,
            listed_of_fullMatch tables.present byTable, obtained⟩
      · obtain rfl := List.mem_singleton.mp (List.mem_of_find?_eq_some default)
        exact absurd obtained List.not_mem_nil

/-- The rules on queries and those on system information: of each role the list it has,
if any, and the default. -/
theorem allowedBy_granted
    {listed : RolePermissions -> Option (List String)}
    {default : List String}
    {access : String}
    (obtained : access ∈ allowedBy
      (((usedRoles model.boundRoles).flatMap fun role =>
        ((listed role.permissions).map fun allow =>
          { user := some (alternatives role.users), allow }).toList) ++ [{ allow := default }])
      user) :
    (model.Grants user fun permissions => access ∈ (listed permissions).getD []) ∨
      access ∈ default := by
  unfold allowedBy at obtained
  cases found : List.find? _ _ with
  | none =>
      rw [found] at obtained
      exact absurd obtained List.not_mem_nil
  | some rule =>
      rw [found, Option.map_some, Option.getD_some] at obtained
      rcases find_append_cases found with ⟨fromRole, applies⟩ | isDefault
      · obtain ⟨role, isUsed, isRule⟩ := List.mem_flatMap.mp fromRole
        obtain ⟨allow, isListed, rfl⟩ := Option.map_eq_some_iff.mp (Option.mem_toList.mp isRule)
        refine Or.inl (grants_of_fullMatch isUsed applies ?_)
        rw [isListed]
        exact obtained
      · obtain rfl := List.mem_singleton.mp (List.mem_of_find?_eq_some isDefault)
        exact Or.inr obtained

theorem neverOverGrants_fileRules (named : NamedRoles model) (user : String) :
    NeverOverGrants model model.fileRules user where
  catalogs := fun _ _ => catalogAccess_granted named
  schemas := fun _ => ownsSchema_granted named
  tables := fun _ _ => tablePrivileges_granted named
  queries := fun _ => allowedBy_granted
  systemInformation := fun _ => allowedBy_granted

/-- A user with no binding is granted nothing, and so obtains only the defaults. -/
theorem onlyDefaults_of_unbound
    {policy : TrinoPolicy}
    (never : NeverOverGrants model policy user)
    (unbound : forall role, ¬model.BoundTo role user) :
    OnlyDefaults model.defaults policy user := by
  have nothing : forall permits : RolePermissions -> Prop, ¬model.Grants user permits := by
    rintro permits ⟨entry, _, bound, _⟩
    exact unbound entry.1 bound
  exact {
    catalogs := fun catalog level obtained =>
      (never.catalogs catalog level obtained).resolve_left (nothing _)
    schemas := fun schema =>
      Bool.eq_false_iff.mpr fun owns => nothing _ (never.schemas schema owns)
    tables := fun table =>
      List.eq_nil_iff_forall_not_mem.mpr fun privilege obtained =>
        nothing _ (never.tables table privilege obtained)
    queries := fun access obtained =>
      (never.queries access obtained).resolve_left (nothing _)
    systemInformation := fun access obtained =>
      (never.systemInformation access obtained).resolve_left (nothing _) }

end Granted

/-- The compiled rules never over-grant, and deny what is not a default to a user with
no binding. -/
theorem trino_never_over_grants
    {document model : RoleModel}
    {policy : TrinoPolicy}
    (accepted : loadAccessPolicy document = .ok model)
    (compiled : compileTrinoPolicy model = .ok policy)
    (user : String) :
    NeverOverGrants model policy user ∧
      ((forall role, ¬model.BoundTo role user) ->
        OnlyDefaults model.defaults policy user) := by
  obtain ⟨_, _, _, _, valid⟩ := loadAccessPolicy_eq_ok_iff.mp accepted
  obtain ⟨named, rfl⟩ := compileTrinoPolicy_eq_ok valid compiled
  have never := neverOverGrants_fileRules named user
  exact ⟨never, onlyDefaults_of_unbound never⟩

/-- The rules of the reader and the writer, for the user they are bound to. -/
theorem trino_never_over_grants_analyst :
    Exists fun policy => compileTrinoPolicy readerAndWriter = .ok policy ∧
      (NeverOverGrants readerAndWriter policy "analyst" ∧
        ((forall role, ¬readerAndWriter.BoundTo role "analyst") ->
          OnlyDefaults readerAndWriter.defaults policy "analyst")) :=
  ⟨_, rfl,
    trino_never_over_grants
      (show loadAccessPolicy readerAndWriter = .ok readerAndWriter from rfl) rfl "analyst"⟩

end Access
end LakehouseOps
