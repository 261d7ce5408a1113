import LakehouseOps.Library.Fallible

/-!
# The role model

One document names the roles, what each role permits, and which users are bound
to which roles. The checks on loading it and the users bound to a role are shared
by the two compilers.
-/

namespace LakehouseOps
namespace Access

open Library.Fallible

/-- Why a role model is not accepted. -/
inductive AccessPolicyError
  | unsupportedSchemaVersion
  | emptyRoles
  | emptyBindings
  | bindingUsers
  | bindingRoles
  | unknownRole (name : String)
  /-- The values of a grant under the named key. -/
  | notNames (key : String)
  deriving DecidableEq

/-- The text of the error. -/
def AccessPolicyError.message : AccessPolicyError -> String
  | .unsupportedSchemaVersion => "unsupported policy schema_version"
  | .emptyRoles => "roles must be a non-empty object"
  | .emptyBindings => "bindings must be a non-empty array"
  | .bindingUsers => "binding users must be non-empty strings"
  | .bindingRoles => "binding roles must be a non-empty array"
  | .unknownRole name => "binding references unknown role: " ++ name
  | .notNames key => key ++ " must be a non-empty string array"

/-! ## Grants -/

structure CatalogGrant where
  catalogs : List String
  access : String
  deriving DecidableEq

structure SchemaGrant where
  catalogs : List String
  schemas : List String
  owner : Bool
  deriving DecidableEq

structure TableGrant where
  catalogs : List String
  schemas : List String
  tables : List String
  privileges : List String
  deriving DecidableEq

structure RowFilterGrant where
  catalogs : List String
  schemas : List String
  tables : List String
  filter : String
  deriving DecidableEq

structure ColumnMaskGrant where
  catalogs : List String
  schemas : List String
  tables : List String
  columns : List String
  maskType : String
  deriving DecidableEq

/-- What a role permits. The two lists that may be absent are options, since one
compiler treats an absent list unlike an empty one. -/
structure RolePermissions where
  catalogs : List CatalogGrant := []
  schemas : List SchemaGrant := []
  tables : List TableGrant := []
  rowFilters : List RowFilterGrant := []
  columnMasks : List ColumnMaskGrant := []
  queries : Option (List String) := none
  systemInformation : Option (List String) := none
  systemSessionProperties : Bool := false
  catalogSessionProperties : Bool := false
  deriving DecidableEq

structure Binding where
  users : List String
  roles : List String
  deriving DecidableEq

/-- What a user without a role is permitted. -/
structure Defaults where
  catalogAccess : String
  systemCatalogAccess : String
  queries : List String
  systemInformation : List String
  deriving DecidableEq

/-- The document. An object has each key once, in the order of the text. -/
structure RoleModel where
  schemaVersion : String
  roles : List (String × RolePermissions)
  distinctRoles : (roles.map Prod.fst).Nodup
  bindings : List Binding
  defaults : Defaults

/-- The names of the roles. -/
def RoleModel.roleNames (model : RoleModel) : List String :=
  model.roles.map Prod.fst

/-! ## Loading -/

/-- `_is_name`, for a string. -/
def isName (value : String) : Bool :=
  value ≠ ""

/-- The checks of one binding. -/
def checkBinding (model : RoleModel) (binding : Binding) :
    Except AccessPolicyError Unit := do
  reject (binding.users = [] ∨ ¬binding.users.all isName) .bindingUsers
  reject (binding.roles = []) .bindingRoles
  match binding.roles.filter fun name => name ∉ model.roleNames with
  | [] => .ok ()
  | unknown :: _ => .error (.unknownRole unknown)

/-- `load_access_policy`, from the parsed document on. -/
def loadAccessPolicy (model : RoleModel) : Except AccessPolicyError RoleModel := do
  reject (model.schemaVersion ≠ "1.0") .unsupportedSchemaVersion
  reject (model.roles = []) .emptyRoles
  reject (model.bindings = []) .emptyBindings
  model.bindings.forM (checkBinding model)
  return model

/-- A binding of named users to roles of the model. -/
structure Binding.Valid (binding : Binding) (model : RoleModel) : Prop where
  users : binding.users ≠ []
  named : forall user, user ∈ binding.users -> user ≠ ""
  roles : binding.roles ≠ []
  known : forall name, name ∈ binding.roles -> name ∈ model.roleNames

theorem checkBinding_eq_ok_iff {model : RoleModel} {binding : Binding} :
    checkBinding model binding = .ok () ↔ binding.Valid model := by
  have unknown :
      (match binding.roles.filter fun name => name ∉ model.roleNames with
        | [] => Except.ok ()
        | unknown :: _ => Except.error (AccessPolicyError.unknownRole unknown)) = .ok () ↔
        forall name, name ∈ binding.roles -> name ∈ model.roleNames := by
    cases missing : binding.roles.filter fun name => name ∉ model.roleNames with
    | nil =>
        rw [List.filter_eq_nil_iff] at missing
        simpa using missing
    | cons name rest =>
        have member : name ∈ binding.roles.filter fun name => name ∉ model.roleNames := by
          rw [missing]
          exact List.mem_cons_self
        obtain ⟨assigned, absent⟩ := List.mem_filter.mp member
        simp only [decide_eq_true_eq] at absent
        simp only [reduceCtorEq, false_iff]
        exact fun known => absent (known name assigned)
  unfold checkBinding
  simp only [bind_eq_ok_iff, reject_eq_ok_iff, exists_const, unknown]
  constructor
  · rintro ⟨users, roles, known⟩
    obtain ⟨present, named⟩ := not_or.mp users
    refine ⟨present, ?_, roles, known⟩
    rintro user isUser rfl
    exact absurd isUser (by simpa [isName] using named)
  · intro valid
    refine ⟨not_or.mpr ⟨valid.users, ?_⟩, valid.roles, valid.known⟩
    simpa [isName] using fun isUser => valid.named "" isUser rfl

/-- A loaded model is the document, whose bindings are all valid. -/
theorem loadAccessPolicy_eq_ok_iff {document model : RoleModel} :
    loadAccessPolicy document = .ok model ↔
      document = model ∧ model.schemaVersion = "1.0" ∧ model.roles ≠ [] ∧
        model.bindings ≠ [] ∧
        forall binding, binding ∈ model.bindings -> binding.Valid model := by
  unfold loadAccessPolicy
  simp only [bind_eq_ok_iff, reject_eq_ok_iff, exists_const, ne_eq, not_not]
  constructor
  · rintro ⟨version, roles, bindings, ⟨⟩, checked, loaded⟩
    injection loaded with same
    subst same
    refine ⟨rfl, version, roles, bindings, fun binding present => ?_⟩
    exact checkBinding_eq_ok_iff.mp (forM_eq_ok_iff.mp checked binding present)
  · rintro ⟨rfl, version, roles, bindings, valid⟩
    refine ⟨version, roles, bindings, ⟨⟩, ?_, rfl⟩
    exact forM_eq_ok_iff.mpr fun binding present =>
      checkBinding_eq_ok_iff.mpr (valid binding present)

/-! ## The users of a role -/

/-- Append the users that are not in the list. -/
def addUsers (bound users : List String) : List String :=
  users.foldl (fun bound user => if user ∈ bound then bound else bound ++ [user]) bound

/-- `_users_by_role`, at one role: the users of its bindings, each once. -/
def usersByRole (bindings : List Binding) (role : String) : List String :=
  bindings.foldl
    (fun bound binding =>
      binding.roles.foldl
        (fun bound name => if name = role then addUsers bound binding.users else bound)
        bound)
    []

/-- A role with the users bound to it and what it permits. -/
structure BoundRole where
  name : String
  users : List String
  permissions : RolePermissions

/-- The roles in the order of the document, with their users. -/
def RoleModel.boundRoles (model : RoleModel) : List BoundRole :=
  model.roles.map fun entry =>
    { name := entry.1
      users := usersByRole model.bindings entry.1
      permissions := entry.2 }

theorem mem_addUsers {bound users : List String} {user : String} :
    user ∈ addUsers bound users ↔ user ∈ bound ∨ user ∈ users := by
  unfold addUsers
  induction users generalizing bound with
  | nil => simp
  | cons head users inductionHypothesis =>
      rw [List.foldl_cons, inductionHypothesis]
      by_cases present : head ∈ bound
      · rw [if_pos present, List.mem_cons]
        constructor
        · rintro (old | new)
          · exact Or.inl old
          · exact Or.inr (Or.inr new)
        · rintro (old | rfl | new)
          · exact Or.inl old
          · exact Or.inl present
          · exact Or.inr new
      · simp [if_neg present, or_assoc]

private theorem mem_usersOfBinding
    {bound users roles : List String}
    {role user : String} :
    user ∈ roles.foldl
        (fun bound name => if name = role then addUsers bound users else bound) bound ↔
      user ∈ bound ∨ (role ∈ roles ∧ user ∈ users) := by
  induction roles generalizing bound with
  | nil => simp
  | cons head roles inductionHypothesis =>
      rw [List.foldl_cons, inductionHypothesis]
      by_cases same : head = role
      · subst same
        rw [if_pos rfl, mem_addUsers]
        simp only [List.mem_cons, true_or, true_and]
        tauto
      · rw [if_neg same]
        simp [Ne.symm same]

/-- The users of a role are those of the bindings that assign it. -/
theorem mem_usersByRole
    {bindings : List Binding}
    {role user : String} :
    user ∈ usersByRole bindings role ↔
      Exists fun binding =>
        binding ∈ bindings ∧ role ∈ binding.roles ∧ user ∈ binding.users := by
  have general : forall bound : List String,
      user ∈ bindings.foldl
          (fun bound binding =>
            binding.roles.foldl
              (fun bound name => if name = role then addUsers bound binding.users else bound)
              bound)
          bound ↔
        user ∈ bound ∨ Exists fun binding =>
          binding ∈ bindings ∧ role ∈ binding.roles ∧ user ∈ binding.users := by
    induction bindings with
    | nil => simp
    | cons head bindings inductionHypothesis =>
        intro bound
        rw [List.foldl_cons, inductionHypothesis, mem_usersOfBinding]
        simp [or_assoc]
  have all := general []
  simpa [usersByRole] using all

/-- In a loaded model, the users of a role are named. -/
theorem usersByRole_named
    {model : RoleModel}
    (valid : forall binding, binding ∈ model.bindings -> binding.Valid model)
    {role user : String}
    (bound : user ∈ usersByRole model.bindings role) :
    user ≠ "" := by
  obtain ⟨binding, present, _, isUser⟩ := mem_usersByRole.mp bound
  exact (valid binding present).named user isUser

end Access
end LakehouseOps
