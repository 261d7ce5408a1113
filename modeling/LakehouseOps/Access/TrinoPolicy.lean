import Mathlib.Data.List.Find
import LakehouseOps.Library.Pattern
import LakehouseOps.Access.RoleModel

/-!
# Trino file rules

The compiler from the role model to the rules of file-based access control, and
what these rules permit on a table: the first rule that matches decides.
-/

namespace LakehouseOps
namespace Access

open Library.Fallible
open Library.Pattern

/-! ## The rules -/

structure CatalogRule where
  user : Option String := none
  catalog : String
  allow : String
  deriving DecidableEq

structure SchemaRule where
  user : Option String := none
  catalog : String
  schema : String
  owner : Bool
  deriving DecidableEq

structure TableRule where
  user : Option String := none
  catalog : String
  schema : String
  table : String
  privileges : List String
  deriving DecidableEq

/-- A rule on queries or on system information. -/
structure AllowRule where
  user : Option String := none
  allow : List String
  deriving DecidableEq

structure SystemPropertyRule where
  user : Option String := none
  property : String
  allow : Bool
  deriving DecidableEq

structure CatalogPropertyRule where
  user : Option String := none
  catalog : String
  property : String
  allow : Bool
  deriving DecidableEq

structure TrinoPolicy where
  catalogs : List CatalogRule := []
  schemas : List SchemaRule := []
  tables : List TableRule := []
  queries : List AllowRule := []
  systemInformation : List AllowRule := []
  systemSessionProperties : List SystemPropertyRule := []
  catalogSessionProperties : List CatalogPropertyRule := []
  deriving DecidableEq

/-! ## The compiler -/

/-- `_required_pattern` -/
def requiredPattern (values : List String) (key : String) :
    Except AccessPolicyError String :=
  if values = [] ∨ ¬values.all isName then .error (.notNames key)
  else .ok (alternatives values)

def compileCatalogGrant (userPattern : String) (grant : CatalogGrant) :
    Except AccessPolicyError CatalogRule := do
  let catalog <- requiredPattern grant.catalogs "catalogs"
  return { user := userPattern, catalog, allow := grant.access }

def compileSchemaGrant (userPattern : String) (grant : SchemaGrant) :
    Except AccessPolicyError SchemaRule := do
  let catalog <- requiredPattern grant.catalogs "catalogs"
  let schema <- requiredPattern grant.schemas "schemas"
  return { user := userPattern, catalog, schema, owner := grant.owner }

def compileTableGrant (userPattern : String) (grant : TableGrant) :
    Except AccessPolicyError TableRule := do
  let catalog <- requiredPattern grant.catalogs "catalogs"
  let schema <- requiredPattern grant.schemas "schemas"
  let table <- requiredPattern grant.tables "tables"
  return { user := userPattern, catalog, schema, table, privileges := grant.privileges }

/-- `_compile_role` -/
def compileRole
    (output : TrinoPolicy)
    (userPattern : String)
    (permissions : RolePermissions) :
    Except AccessPolicyError TrinoPolicy := do
  let catalogs <- permissions.catalogs.mapM (compileCatalogGrant userPattern)
  let schemas <- permissions.schemas.mapM (compileSchemaGrant userPattern)
  let tables <- permissions.tables.mapM (compileTableGrant userPattern)
  return {
    catalogs := output.catalogs ++ catalogs
    schemas := output.schemas ++ schemas
    tables := output.tables ++ tables
    queries := output.queries ++
      (permissions.queries.map fun allow => { user := userPattern, allow }).toList
    systemInformation := output.systemInformation ++
      (permissions.systemInformation.map fun allow => { user := userPattern, allow }).toList
    systemSessionProperties := output.systemSessionProperties ++
      if permissions.systemSessionProperties then
        [{ user := userPattern, property := ".*", allow := true }]
      else []
    catalogSessionProperties := output.catalogSessionProperties ++
      if permissions.catalogSessionProperties then
        [{ user := userPattern, catalog := ".*", property := ".*", allow := true }]
      else [] }

/-- The table rule that permits nothing. -/
def defaultTableRule : TableRule :=
  { catalog := ".*", schema := ".*", table := ".*", privileges := [] }

/-- `_append_defaults` -/
def appendDefaults (output : TrinoPolicy) (defaults : Defaults) : TrinoPolicy where
  catalogs := output.catalogs ++
    [{ catalog := "system", allow := defaults.systemCatalogAccess },
      { catalog := ".*", allow := defaults.catalogAccess }]
  schemas := output.schemas ++ [{ catalog := ".*", schema := ".*", owner := false }]
  tables := output.tables ++ [defaultTableRule]
  queries := output.queries ++ [{ allow := defaults.queries }]
  systemInformation := output.systemInformation ++ [{ allow := defaults.systemInformation }]
  systemSessionProperties := output.systemSessionProperties ++
    [{ property := ".*", allow := false }]
  catalogSessionProperties := output.catalogSessionProperties ++
    [{ catalog := ".*", property := ".*", allow := false }]

/-- Compile one role; one without users has an empty pattern and is passed over. -/
def compileBoundRole (output : TrinoPolicy) (role : BoundRole) :
    Except AccessPolicyError TrinoPolicy :=
  if alternatives role.users = "" then .ok output
  else compileRole output (alternatives role.users) role.permissions

/-- `compile_trino_policy` -/
def compileTrinoPolicy (model : RoleModel) : Except AccessPolicyError TrinoPolicy := do
  let output <- model.boundRoles.foldlM compileBoundRole {}
  return appendDefaults output model.defaults

/-! ## What the rules permit -/

structure TableName where
  catalog : String
  schema : String
  table : String
  deriving DecidableEq

/-- The privileges on a table that both engines know. -/
inductive TablePrivilege
  | select
  | insert
  | delete
  | update
  deriving DecidableEq

/-- The privilege in the role model and in the file rules. -/
def TablePrivilege.name : TablePrivilege -> String
  | .select => "SELECT"
  | .insert => "INSERT"
  | .delete => "DELETE"
  | .update => "UPDATE"

/-- Whether the rule is about the user and the table. -/
def TableRule.appliesTo (rule : TableRule) (user : String) (table : TableName) : Bool :=
  rule.user.all (fun expression => fullMatch expression user) &&
    fullMatch rule.catalog table.catalog &&
    fullMatch rule.schema table.schema &&
    fullMatch rule.table table.table

/-- File-based access control on a table: the first rule that applies decides, and
ownership is every privilege. -/
def TrinoPolicy.allows
    (policy : TrinoPolicy)
    (user : String)
    (table : TableName)
    (privilege : TablePrivilege) : Bool :=
  match policy.tables.find? fun rule => rule.appliesTo user table with
  | none => false
  | some rule => privilege.name ∈ rule.privileges ∨ "OWNERSHIP" ∈ rule.privileges

/-! ## The grants behind the rules -/

/-- A grant on tables with the users it is bound to. -/
structure BoundGrant where
  users : List String
  grant : TableGrant

/-- The grants on tables of some roles, those without users left out. -/
def grantsOf (roles : List BoundRole) : List BoundGrant :=
  (roles.filter fun role => role.users ≠ []).flatMap fun role =>
    role.permissions.tables.map fun grant => { users := role.users, grant }

/-- The grants on tables in the order of the document. -/
def RoleModel.boundGrants (model : RoleModel) : List BoundGrant :=
  grantsOf model.boundRoles

/-- Values that name the text by one of them. -/
def Names (values : List String) (name : String) : Prop :=
  Exists fun value => value ∈ values ∧ Denotes value name

instance (values : List String) (name : String) : Decidable (Names values name) :=
  inferInstanceAs (Decidable (Exists fun value => value ∈ values ∧ Denotes value name))

/-- The grant is about the user and the table, where a star stands for any user or
part of the name. -/
structure BoundGrant.Covers
    (bound : BoundGrant)
    (user : String)
    (table : TableName) : Prop where
  user : Names bound.users user
  catalog : Names bound.grant.catalogs table.catalog
  schema : Names bound.grant.schemas table.schema
  table : Names bound.grant.tables table.table

/-- The grant carries the privilege, by itself or through ownership. -/
def BoundGrant.Carries (bound : BoundGrant) (privilege : TablePrivilege) : Prop :=
  privilege.name ∈ bound.grant.privileges ∨ "OWNERSHIP" ∈ bound.grant.privileges

instance (bound : BoundGrant) (user : String) (table : TableName) :
    Decidable (bound.Covers user table) :=
  decidable_of_iff
    (Names bound.users user ∧ Names bound.grant.catalogs table.catalog ∧
      Names bound.grant.schemas table.schema ∧ Names bound.grant.tables table.table)
    ⟨fun ⟨user, catalog, schema, table⟩ => ⟨user, catalog, schema, table⟩,
      fun ⟨user, catalog, schema, table⟩ => ⟨user, catalog, schema, table⟩⟩

instance (bound : BoundGrant) (privilege : TablePrivilege) :
    Decidable (bound.Carries privilege) :=
  inferInstanceAs (Decidable (_ ∨ _))

/-! ## What the compiler writes -/

/-- Values that make a pattern. -/
structure NamedValues (values : List String) : Prop where
  present : values ≠ []
  named : forall value, value ∈ values -> value ≠ ""

theorem requiredPattern_eq_ok_iff {values : List String} {key result : String} :
    requiredPattern values key = .ok result ↔
      NamedValues values ∧ result = alternatives values := by
  unfold requiredPattern
  by_cases present : values = []
  · rw [if_pos (Or.inl present)]
    simp only [reduceCtorEq, false_iff, not_and]
    exact fun named => absurd present named.present
  · by_cases named : values.all isName
    · rw [if_neg (not_or.mpr ⟨present, not_not.mpr named⟩), Except.ok.injEq, eq_comm]
      refine (and_iff_right ⟨present, fun value member empty => ?_⟩).symm
      have isNamed := List.all_eq_true.mp named value member
      simp [isName, empty] at isNamed
    · rw [if_pos (Or.inr named)]
      simp only [reduceCtorEq, false_iff, not_and]
      intro valid
      exact absurd (List.all_eq_true.mpr fun value member => by
        simpa [isName] using valid.named value member) named

/-- A grant on tables that is compiled: its three lists are names. -/
structure TableGrant.Named (grant : TableGrant) : Prop where
  catalogs : NamedValues grant.catalogs
  schemas : NamedValues grant.schemas
  tables : NamedValues grant.tables

/-- The rule of a grant on tables. -/
def TableGrant.rule (grant : TableGrant) (userPattern : String) : TableRule where
  user := userPattern
  catalog := alternatives grant.catalogs
  schema := alternatives grant.schemas
  table := alternatives grant.tables
  privileges := grant.privileges

theorem compileTableGrant_eq_ok_iff
    {userPattern : String}
    {grant : TableGrant}
    {rule : TableRule} :
    compileTableGrant userPattern grant = .ok rule ↔
      grant.Named ∧ rule = grant.rule userPattern := by
  unfold compileTableGrant
  simp only [bind_eq_ok_iff, requiredPattern_eq_ok_iff]
  constructor
  · rintro ⟨_, ⟨catalogs, rfl⟩, _, ⟨schemas, rfl⟩, _, ⟨tables, rfl⟩, returned⟩
    injection returned with same
    exact ⟨⟨catalogs, schemas, tables⟩, same.symm⟩
  · rintro ⟨⟨catalogs, schemas, tables⟩, rfl⟩
    exact ⟨_, ⟨catalogs, rfl⟩, _, ⟨schemas, rfl⟩, _, ⟨tables, rfl⟩, rfl⟩

/-- The rule of a grant on catalogs. -/
def CatalogGrant.rule (grant : CatalogGrant) (userPattern : String) : CatalogRule where
  user := userPattern
  catalog := alternatives grant.catalogs
  allow := grant.access

theorem compileCatalogGrant_eq_ok_iff
    {userPattern : String}
    {grant : CatalogGrant}
    {rule : CatalogRule} :
    compileCatalogGrant userPattern grant = .ok rule ↔
      NamedValues grant.catalogs ∧ rule = grant.rule userPattern := by
  unfold compileCatalogGrant
  simp only [bind_eq_ok_iff, requiredPattern_eq_ok_iff]
  constructor
  · rintro ⟨_, ⟨catalogs, rfl⟩, returned⟩
    injection returned with same
    exact ⟨catalogs, same.symm⟩
  · rintro ⟨catalogs, rfl⟩
    exact ⟨_, ⟨catalogs, rfl⟩, rfl⟩

/-- A grant on schemas that is compiled: its two lists are names. -/
structure SchemaGrant.Named (grant : SchemaGrant) : Prop where
  catalogs : NamedValues grant.catalogs
  schemas : NamedValues grant.schemas

/-- The rule of a grant on schemas. -/
def SchemaGrant.rule (grant : SchemaGrant) (userPattern : String) : SchemaRule where
  user := userPattern
  catalog := alternatives grant.catalogs
  schema := alternatives grant.schemas
  owner := grant.owner

theorem compileSchemaGrant_eq_ok_iff
    {userPattern : String}
    {grant : SchemaGrant}
    {rule : SchemaRule} :
    compileSchemaGrant userPattern grant = .ok rule ↔
      grant.Named ∧ rule = grant.rule userPattern := by
  unfold compileSchemaGrant
  simp only [bind_eq_ok_iff, requiredPattern_eq_ok_iff]
  constructor
  · rintro ⟨_, ⟨catalogs, rfl⟩, _, ⟨schemas, rfl⟩, returned⟩
    injection returned with same
    exact ⟨⟨catalogs, schemas⟩, same.symm⟩
  · rintro ⟨⟨catalogs, schemas⟩, rfl⟩
    exact ⟨_, ⟨catalogs, rfl⟩, _, ⟨schemas, rfl⟩, rfl⟩

/-- Permissions that are compiled: every grant names what it is about. -/
structure RolePermissions.Named (permissions : RolePermissions) : Prop where
  catalogs : forall grant, grant ∈ permissions.catalogs -> NamedValues grant.catalogs
  schemas : forall grant, grant ∈ permissions.schemas -> grant.Named
  tables : forall grant, grant ∈ permissions.tables -> grant.Named

/-- The rules of one role after those of others. -/
def TrinoPolicy.append (output rules : TrinoPolicy) : TrinoPolicy where
  catalogs := output.catalogs ++ rules.catalogs
  schemas := output.schemas ++ rules.schemas
  tables := output.tables ++ rules.tables
  queries := output.queries ++ rules.queries
  systemInformation := output.systemInformation ++ rules.systemInformation
  systemSessionProperties := output.systemSessionProperties ++ rules.systemSessionProperties
  catalogSessionProperties := output.catalogSessionProperties ++ rules.catalogSessionProperties

theorem TrinoPolicy.append_assoc (first second third : TrinoPolicy) :
    (first.append second).append third = first.append (second.append third) := by
  simp [TrinoPolicy.append]

/-- The rules of the permissions for the users of the pattern. -/
def RolePermissions.rules (permissions : RolePermissions) (userPattern : String) :
    TrinoPolicy where
  catalogs := permissions.catalogs.map fun grant => grant.rule userPattern
  schemas := permissions.schemas.map fun grant => grant.rule userPattern
  tables := permissions.tables.map fun grant => grant.rule userPattern
  queries := (permissions.queries.map fun allow => { user := userPattern, allow }).toList
  systemInformation :=
    (permissions.systemInformation.map fun allow => { user := userPattern, allow }).toList
  systemSessionProperties :=
    if permissions.systemSessionProperties then
      [{ user := userPattern, property := ".*", allow := true }]
    else []
  catalogSessionProperties :=
    if permissions.catalogSessionProperties then
      [{ user := userPattern, catalog := ".*", property := ".*", allow := true }]
    else []

/-- One role appends its rules. -/
theorem compileRole_eq_ok
    {output result : TrinoPolicy}
    {userPattern : String}
    {permissions : RolePermissions}
    (compiled : compileRole output userPattern permissions = .ok result) :
    permissions.Named ∧ result = output.append (permissions.rules userPattern) := by
  unfold compileRole at compiled
  obtain ⟨catalogs, catalogsCompiled, compiled⟩ := bind_eq_ok_iff.mp compiled
  obtain ⟨schemas, schemasCompiled, compiled⟩ := bind_eq_ok_iff.mp compiled
  obtain ⟨tables, tablesCompiled, compiled⟩ := bind_eq_ok_iff.mp compiled
  obtain ⟨catalogsNamed, rfl⟩ :=
    (mapM_eq_ok_iff fun _ _ => compileCatalogGrant_eq_ok_iff).mp catalogsCompiled
  obtain ⟨schemasNamed, rfl⟩ :=
    (mapM_eq_ok_iff fun _ _ => compileSchemaGrant_eq_ok_iff).mp schemasCompiled
  obtain ⟨tablesNamed, rfl⟩ :=
    (mapM_eq_ok_iff fun _ _ => compileTableGrant_eq_ok_iff).mp tablesCompiled
  injection compiled with same
  subst same
  exact ⟨⟨catalogsNamed, schemasNamed, tablesNamed⟩, rfl⟩

/-- The roles with users, the only ones that are compiled. -/
def usedRoles (roles : List BoundRole) : List BoundRole :=
  roles.filter fun role => role.users ≠ []

theorem mem_usedRoles {roles : List BoundRole} {role : BoundRole} :
    role ∈ usedRoles roles ↔ role ∈ roles ∧ role.users ≠ [] := by
  simp [usedRoles]

/-- The rules of a role for its users. -/
def BoundRole.rules (role : BoundRole) : TrinoPolicy :=
  role.permissions.rules (alternatives role.users)

/-- The rules of some roles, one role after the other. -/
def rulesOf (roles : List BoundRole) : TrinoPolicy where
  catalogs := roles.flatMap fun role => role.rules.catalogs
  schemas := roles.flatMap fun role => role.rules.schemas
  tables := roles.flatMap fun role => role.rules.tables
  queries := roles.flatMap fun role => role.rules.queries
  systemInformation := roles.flatMap fun role => role.rules.systemInformation
  systemSessionProperties := roles.flatMap fun role => role.rules.systemSessionProperties
  catalogSessionProperties := roles.flatMap fun role => role.rules.catalogSessionProperties

/-- The roles in turn append the rules of those with users. -/
theorem compileBoundRoles_eq_ok
    {roles : List BoundRole}
    (named : forall role, role ∈ roles -> forall user, user ∈ role.users -> user ≠ "")
    {output result : TrinoPolicy}
    (compiled : roles.foldlM compileBoundRole output = .ok result) :
    (forall role, role ∈ usedRoles roles -> role.permissions.Named) ∧
      result = output.append (rulesOf (usedRoles roles)) := by
  induction roles generalizing output with
  | nil =>
      injection compiled with same
      subst same
      simp [usedRoles, rulesOf, TrinoPolicy.append]
  | cons role roles inductionHypothesis =>
      obtain ⟨headNamed, tailNamed⟩ := List.forall_mem_cons.mp named
      rw [List.foldlM_cons] at compiled
      obtain ⟨next, headCompiled, tailCompiled⟩ := bind_eq_ok_iff.mp compiled
      obtain ⟨permissionsNamed, rfl⟩ := inductionHypothesis tailNamed tailCompiled
      unfold compileBoundRole at headCompiled
      cases users : role.users with
      | nil =>
          rw [users, if_pos (by decide)] at headCompiled
          injection headCompiled with same
          subst same
          have unused : usedRoles (role :: roles) = usedRoles roles :=
            List.filter_cons_of_neg (by simpa using users)
          rw [unused]
          exact ⟨permissionsNamed, rfl⟩
      | cons user others =>
          have isNamed : user ≠ "" := headNamed user (by simp [users])
          rw [if_neg (by rw [users]; exact alternatives_ne_empty isNamed)] at headCompiled
          obtain ⟨headPermissions, rfl⟩ := compileRole_eq_ok headCompiled
          have used : usedRoles (role :: roles) = role :: usedRoles roles :=
            List.filter_cons_of_pos (by simp [users])
          rw [used, TrinoPolicy.append_assoc]
          exact ⟨List.forall_mem_cons.mpr ⟨headPermissions, permissionsNamed⟩, rfl⟩

/-- A compiled model has the rules of its roles, and after them the defaults. -/
theorem compileTrinoPolicy_eq_ok
    {model : RoleModel}
    (valid : forall binding, binding ∈ model.bindings -> binding.Valid model)
    {policy : TrinoPolicy}
    (compiled : compileTrinoPolicy model = .ok policy) :
    (forall role, role ∈ usedRoles model.boundRoles -> role.permissions.Named) ∧
      policy = appendDefaults (rulesOf (usedRoles model.boundRoles)) model.defaults := by
  unfold compileTrinoPolicy at compiled
  obtain ⟨output, rolesCompiled, returned⟩ := bind_eq_ok_iff.mp compiled
  injection returned with same
  subst same
  have named : forall role, role ∈ model.boundRoles ->
      forall user, user ∈ role.users -> user ≠ "" := by
    intro role member user isUser
    obtain ⟨entry, _, rfl⟩ := List.mem_map.mp member
    exact usersByRole_named valid isUser
  obtain ⟨permissionsNamed, rfl⟩ := compileBoundRoles_eq_ok named rolesCompiled
  exact ⟨permissionsNamed, rfl⟩

/-- A bound grant that was compiled. -/
structure BoundGrant.Valid (bound : BoundGrant) : Prop where
  users : bound.users ≠ []
  named : bound.grant.Named

/-- The rule of a bound grant. -/
def BoundGrant.rule (bound : BoundGrant) : TableRule :=
  bound.grant.rule (alternatives bound.users)

/-- The table rules of a compiled model: the rules of its grants, and the default. -/
theorem tables_of_compileTrinoPolicy
    {model : RoleModel}
    (valid : forall binding, binding ∈ model.bindings -> binding.Valid model)
    {policy : TrinoPolicy}
    (compiled : compileTrinoPolicy model = .ok policy) :
    (forall bound, bound ∈ model.boundGrants -> bound.Valid) ∧
      policy.tables = model.boundGrants.map BoundGrant.rule ++ [defaultTableRule] := by
  obtain ⟨permissionsNamed, rfl⟩ := compileTrinoPolicy_eq_ok valid compiled
  constructor
  · intro bound member
    obtain ⟨role, isUsed, fromRole⟩ := List.mem_flatMap.mp member
    obtain ⟨grant, isGrant, rfl⟩ := List.mem_map.mp fromRole
    exact ⟨(mem_usedRoles.mp isUsed).2, (permissionsNamed role isUsed).tables grant isGrant⟩
  · have rules : (rulesOf (usedRoles model.boundRoles)).tables =
        model.boundGrants.map BoundGrant.rule := by
      unfold RoleModel.boundGrants grantsOf
      rw [List.map_flatMap]
      refine List.flatMap_congr fun role _ => ?_
      rw [List.map_map]
      rfl
    change (rulesOf (usedRoles model.boundRoles)).tables ++ [defaultTableRule] = _
    rw [rules]

/-- The rule of a valid grant is about what the grant covers. -/
theorem BoundGrant.rule_appliesTo
    {bound : BoundGrant}
    (valid : bound.Valid)
    (user : String)
    (table : TableName) :
    bound.rule.appliesTo user table = true ↔ bound.Covers user table := by
  obtain ⟨users, catalogs, schemas, tables⟩ := valid
  unfold TableRule.appliesTo BoundGrant.rule TableGrant.rule
  simp only [Option.all_some, Bool.and_eq_true, fullMatch_alternatives users,
    fullMatch_alternatives catalogs.present, fullMatch_alternatives schemas.present,
    fullMatch_alternatives tables.present]
  constructor
  · rintro ⟨⟨⟨byUser, byCatalog⟩, bySchema⟩, byTable⟩
    exact ⟨byUser, byCatalog, bySchema, byTable⟩
  · rintro ⟨byUser, byCatalog, bySchema, byTable⟩
    exact ⟨⟨⟨byUser, byCatalog⟩, bySchema⟩, byTable⟩

/-- The first grant that covers the request. -/
def RoleModel.decidingGrant
    (model : RoleModel)
    (user : String)
    (table : TableName) : Option BoundGrant :=
  model.boundGrants.find? fun bound => bound.Covers user table

/-- The compiled rules permit what the deciding grant carries. -/
theorem allows_iff_decidingGrant
    {model : RoleModel}
    (valid : forall binding, binding ∈ model.bindings -> binding.Valid model)
    {policy : TrinoPolicy}
    (compiled : compileTrinoPolicy model = .ok policy)
    (user : String)
    (table : TableName)
    (privilege : TablePrivilege) :
    policy.allows user table privilege = true ↔
      Exists fun bound =>
        model.decidingGrant user table = some bound ∧ bound.Carries privilege := by
  obtain ⟨grantsValid, tables⟩ := tables_of_compileTrinoPolicy valid compiled
  have rules : (model.boundGrants.map BoundGrant.rule).find?
        (fun rule => rule.appliesTo user table) =
      (model.decidingGrant user table).map BoundGrant.rule := by
    rw [List.find?_map, RoleModel.decidingGrant]
    congr 1
    refine List.find?_congr fun bound member => ?_
    rw [Bool.eq_iff_iff, decide_eq_true_iff]
    exact bound.rule_appliesTo (grantsValid bound member) user table
  unfold TrinoPolicy.allows
  rw [tables, List.find?_append, rules]
  cases model.decidingGrant user table with
  | some bound => simp [BoundGrant.Carries, BoundGrant.rule, TableGrant.rule]
  | none =>
      -- Only the default rule is left, and it has no privileges.
      have noPrivileges : defaultTableRule.privileges = [] := rfl
      cases applies : defaultTableRule.appliesTo user table with
      | true => simp [applies, noPrivileges]
      | false => simp [applies]

end Access
end LakehouseOps
