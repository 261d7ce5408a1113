import LakehouseOps.Library.Datetime
import LakehouseOps.Library.Json
import LakehouseOps.Library.Text
import LakehouseOps.Access.TableAccess

/-!
# Break-glass leases

A lease binds one user to one role for at most an hour. The binding is added to the
role model before the policies are compiled, so an active lease adds to the relation
of the policies what its role permits, for its user, and nothing else.
-/

namespace LakehouseOps
namespace Access

open Library Library.Fallible

/-! ## Applying a lease -/

/-- What the module uses of Python's datetimes. -/
structure Datetimes where
  fromisoformat : String -> Option Datetime
  isoformat : Datetime -> String

/-- `MAX_LEASE_TTL`, in microseconds -/
def maxLeaseTtl : Int := 3600000000

/-- `_required_string` -/
def requiredString (document : Entries) (key : String) : Except String String :=
  match document.lookup key with
  | some (.string value) =>
      if stripText value = "" then
        .error ("break-glass " ++ key ++ " must be a non-empty string")
      else .ok (stripText value)
  | _ => .error ("break-glass " ++ key ++ " must be a non-empty string")

/-- `_utc_timestamp` -/
def utcTimestamp (datetimes : Datetimes) (document : Entries) (key : String) :
    Except String Datetime := do
  let value <- requiredString document key
  match datetimes.fromisoformat (replaceText value "Z" "+00:00") with
  | none => .error ("break-glass " ++ key ++ " must be an ISO-8601 timestamp")
  | some parsed =>
      if parsed.offset = some 0 then .ok parsed
      else .error ("break-glass " ++ key ++ " must use UTC")

/-- `_load_lease`, from the parsed document on. -/
def loadLease : Json -> Except String Entries
  | .object lease =>
      match lease.lookup "schema_version" with
      | some (.string "1.0") => .ok lease
      | _ => .error "unsupported break-glass schema_version"
  | _ => .error "break-glass lease must be a JSON object"

inductive LeaseStatus
  | active
  | notYetValid
  | expired
  deriving DecidableEq

/-- The status in the report. -/
def LeaseStatus.name : LeaseStatus -> String
  | .active => "active"
  | .notYetValid => "not_yet_valid"
  | .expired => "expired"

/-- The status of a lease at a time. -/
def leaseStatus (issuedAt expiresAt evaluatedAt : Datetime) : LeaseStatus :=
  if evaluatedAt.time < issuedAt.time then .notYetValid
  else if expiresAt.time ≤ evaluatedAt.time then .expired
  else .active

structure LeaseReport where
  schemaVersion : String
  grantId : String
  status : String
  user : String
  role : String
  approvedBy : String
  ticket : String
  reason : String
  issuedAt : String
  expiresAt : String
  evaluatedAt : String
  deriving DecidableEq

/-- The model with one more binding. -/
def RoleModel.bind (model : RoleModel) (user role : String) : RoleModel :=
  { model with bindings := model.bindings ++ [{ users := [user], roles := [role] }] }

/-- The model that a lease of the status leaves. -/
def effectiveModel (model : RoleModel) (status : LeaseStatus) (user role : String) : RoleModel :=
  if status = .active then model.bind user role else model

/-- A datetime in the report. -/
def reportTime (datetimes : Datetimes) (datetime : Datetime) : String :=
  replaceText (datetimes.isoformat datetime) "+00:00" "Z"

/-- `apply_break_glass_lease`. The clock is read where no time is given. -/
def applyBreakGlassLease
    (datetimes : Datetimes)
    (clock : Datetime)
    (model : RoleModel)
    (document : Json)
    (now : Option Datetime) : Except String (RoleModel × LeaseReport) := do
  let lease <- loadLease document
  let role <- requiredString lease "role"
  reject (role ∉ model.roleNames) ("break-glass lease references unknown role: " ++ role)
  let user <- requiredString lease "user"
  let approvedBy <- requiredString lease "approved_by"
  reject (approvedBy = user) "break-glass approver must differ from the user"
  let issuedAt <- utcTimestamp datetimes lease "issued_at"
  let expiresAt <- utcTimestamp datetimes lease "expires_at"
  reject (expiresAt.time ≤ issuedAt.time) "break-glass expires_at must be after issued_at"
  reject (maxLeaseTtl < expiresAt.time - issuedAt.time)
    "break-glass lease TTL must not exceed 1 hour"
  let evaluatedAt := now.getD clock
  reject (evaluatedAt.offset ≠ some 0) "break-glass evaluation time must be UTC"
  let status := leaseStatus issuedAt expiresAt evaluatedAt
  let grantId <- requiredString lease "grant_id"
  let ticket <- requiredString lease "ticket"
  let reason <- requiredString lease "reason"
  return (effectiveModel model status user role,
    { schemaVersion := "1.0"
      grantId
      status := status.name
      user
      role
      approvedBy
      ticket
      reason
      issuedAt := reportTime datetimes issuedAt
      expiresAt := reportTime datetimes expiresAt
      evaluatedAt := reportTime datetimes evaluatedAt })

/-! ## What a lease says -/

/-- The terms of a lease. -/
structure LeaseTerms where
  user : String
  role : String
  issuedAt : Datetime
  expiresAt : Datetime

/-- The document has the terms. -/
def LeaseTerms.Of
    (terms : LeaseTerms)
    (datetimes : Datetimes)
    (document : Json) : Prop :=
  Exists fun lease =>
    document = .object lease ∧ requiredString lease "user" = .ok terms.user ∧
      requiredString lease "role" = .ok terms.role ∧
      utcTimestamp datetimes lease "issued_at" = .ok terms.issuedAt ∧
      utcTimestamp datetimes lease "expires_at" = .ok terms.expiresAt

/-- The lease is active at the time. -/
def LeaseTerms.Active (terms : LeaseTerms) (now : Datetime) : Prop :=
  terms.issuedAt.time ≤ now.time ∧ now.time < terms.expiresAt.time

instance (terms : LeaseTerms) (now : Datetime) : Decidable (terms.Active now) :=
  inferInstanceAs (Decidable (_ ∧ _))

theorem leaseStatus_eq_active_iff (terms : LeaseTerms) (now : Datetime) :
    leaseStatus terms.issuedAt terms.expiresAt now = .active ↔ terms.Active now := by
  unfold leaseStatus LeaseTerms.Active
  split
  · next early => simp [Int.not_le.mpr early]
  · next late =>
      split
      · next expired => simp [Int.not_lt.mpr expired]
      · next open_ => simp [Int.not_lt.mp late, Int.not_le.mp open_]

theorem loadLease_eq_ok {document : Json} {lease : Entries}
    (loaded : loadLease document = .ok lease) :
    document = .object lease := by
  unfold loadLease at loaded
  split at loaded
  · split at loaded
    · rw [Except.ok.inj loaded]
    · exact absurd loaded (by simp)
  · exact absurd loaded (by simp)

/-- A named value is not empty. -/
theorem requiredString_ne_empty {document : Entries} {key value : String}
    (read : requiredString document key = .ok value) :
    value ≠ "" := by
  unfold requiredString at read
  split at read
  · split at read
    · exact absurd read (by simp)
    · next present => exact Except.ok.inj read ▸ present
  · exact absurd read (by simp)

/-- An accepted lease has terms of at most an hour, and adds its binding while active. -/
structure Applied
    (model effective : RoleModel)
    (terms : LeaseTerms)
    (now : Datetime) : Prop where
  named : terms.user ≠ ""
  known : terms.role ∈ model.roleNames
  ttl : terms.expiresAt.time ≤ terms.issuedAt.time + maxLeaseTtl
  effective : effective =
    if terms.Active now then model.bind terms.user terms.role else model

theorem applyBreakGlassLease_eq_ok
    {datetimes : Datetimes}
    {clock : Datetime}
    {model effective : RoleModel}
    {document : Json}
    {now : Option Datetime}
    {report : LeaseReport}
    (applied : applyBreakGlassLease datetimes clock model document now =
      .ok (effective, report)) :
    Exists fun terms : LeaseTerms =>
      terms.Of datetimes document ∧ Applied model effective terms (now.getD clock) := by
  unfold applyBreakGlassLease at applied
  obtain ⟨lease, loaded, applied⟩ := bind_eq_ok_iff.mp applied
  obtain ⟨role, isRole, applied⟩ := bind_eq_ok_iff.mp applied
  obtain ⟨_, known, applied⟩ := bind_eq_ok_iff.mp applied
  obtain ⟨user, isUser, applied⟩ := bind_eq_ok_iff.mp applied
  obtain ⟨approvedBy, _, applied⟩ := bind_eq_ok_iff.mp applied
  obtain ⟨_, _, applied⟩ := bind_eq_ok_iff.mp applied
  obtain ⟨issuedAt, isIssued, applied⟩ := bind_eq_ok_iff.mp applied
  obtain ⟨expiresAt, expires, applied⟩ := bind_eq_ok_iff.mp applied
  obtain ⟨_, _, applied⟩ := bind_eq_ok_iff.mp applied
  obtain ⟨_, ttl, applied⟩ := bind_eq_ok_iff.mp applied
  obtain ⟨_, _, applied⟩ := bind_eq_ok_iff.mp applied
  obtain ⟨grantId, _, applied⟩ := bind_eq_ok_iff.mp applied
  obtain ⟨ticket, _, applied⟩ := bind_eq_ok_iff.mp applied
  obtain ⟨reason, _, applied⟩ := bind_eq_ok_iff.mp applied
  have returned : effectiveModel model (leaseStatus issuedAt expiresAt (now.getD clock)) user role =
      effective := congrArg Prod.fst (Except.ok.inj applied)
  have short := reject_eq_ok_iff.mp ttl
  let terms : LeaseTerms := { user, role, issuedAt, expiresAt }
  refine ⟨terms, ⟨lease, loadLease_eq_ok loaded, isUser, isRole, isIssued, expires⟩, ?_⟩
  exact {
    named := requiredString_ne_empty isUser
    known := not_not.mp (reject_eq_ok_iff.mp known)
    ttl := show expiresAt.time ≤ issuedAt.time + maxLeaseTtl by omega
    effective := returned.symm.trans
      (if_congr (leaseStatus_eq_active_iff terms (now.getD clock)) rfl rfl) }

/-! ## What a lease adds -/

theorem bind_assigns_iff {model : RoleModel} {user role someUser someRole : String} :
    (model.bind user role).Assigns someUser someRole ↔
      model.Assigns someUser someRole ∨ (someUser = user ∧ someRole = role) := by
  unfold RoleModel.Assigns RoleModel.bind
  simp [or_and_right, exists_or]

/-- Some grant of the role, or what every bound user has, is to the access. -/
def RoleModel.LeaseEntitles
    (model : RoleModel)
    (role : String)
    (resources : Resources)
    (access : String) : Prop :=
  (Exists fun entry =>
      entry ∈ model.roles ∧ entry.1 = role ∧ Entitles entry.2.entitlements resources access) ∨
    Entitles model.defaults.entitlements resources access

/-- One more binding entitles its user to what the role permits and to what every bound
user has, and no other user to anything. -/
theorem bind_entitled_iff
    {model : RoleModel}
    {user role someUser access : String}
    {resources : Resources} :
    (model.bind user role).Entitled someUser resources access ↔
      model.Entitled someUser resources access ∨
        (someUser = user ∧ model.LeaseEntitles role resources access) := by
  have roles : (model.bind user role).roles = model.roles := rfl
  have defaults : (model.bind user role).defaults = model.defaults := rfl
  unfold RoleModel.Entitled RoleModel.LeaseEntitles
  rw [roles, defaults]
  simp only [bind_assigns_iff]
  constructor
  · rintro (⟨entry, isEntry, assigns | ⟨isUser, isRole⟩, entitles⟩ |
      ⟨⟨name, assigns | ⟨isUser, _⟩⟩, entitles⟩)
    · exact Or.inl (Or.inl ⟨entry, isEntry, assigns, entitles⟩)
    · exact Or.inr ⟨isUser, Or.inl ⟨entry, isEntry, isRole, entitles⟩⟩
    · exact Or.inl (Or.inr ⟨⟨name, assigns⟩, entitles⟩)
    · exact Or.inr ⟨isUser, Or.inr entitles⟩
  · rintro ((⟨entry, isEntry, assigns, entitles⟩ | ⟨⟨name, assigns⟩, entitles⟩) |
      ⟨isUser, ⟨entry, isEntry, isRole, entitles⟩ | entitles⟩)
    · exact Or.inl ⟨entry, isEntry, Or.inl assigns, entitles⟩
    · exact Or.inr ⟨⟨name, Or.inl assigns⟩, entitles⟩
    · exact Or.inl ⟨entry, isEntry, Or.inr ⟨isUser, isRole⟩, entitles⟩
    · exact Or.inr ⟨⟨role, Or.inr ⟨isUser, rfl⟩⟩, entitles⟩

/-- The bindings stay valid when a named user is bound to a role of the model. -/
theorem bind_valid
    {model : RoleModel}
    (valid : forall binding, binding ∈ model.bindings -> binding.Valid model)
    {user role : String}
    (named : user ≠ "")
    (known : role ∈ model.roleNames) :
    forall binding, binding ∈ (model.bind user role).bindings ->
      binding.Valid (model.bind user role) := by
  intro binding member
  rcases List.mem_append.mp member with old | new
  · obtain ⟨users, usersNamed, roles, rolesKnown⟩ := valid binding old
    exact ⟨users, usersNamed, roles, rolesKnown⟩
  · obtain rfl := List.mem_singleton.mp new
    exact {
      users := List.cons_ne_nil _ _
      named := fun name isUser => List.mem_singleton.mp isUser ▸ named
      roles := List.cons_ne_nil _ _
      known := fun name isRole => List.mem_singleton.mp isRole ▸ known }

/-- What the lease does to the compiled policies: outside its window, of at most an hour,
nothing, and inside it the relation grows by what the lease entitles its user to. -/
structure LeaseEffect
    (digest : Resources -> String)
    (service : String)
    (model effective : RoleModel)
    (terms : LeaseTerms)
    (now : Datetime) : Prop where
  ttl : terms.expiresAt.time ≤ terms.issuedAt.time + maxLeaseTtl
  outside : ¬terms.Active now ->
    compileRangerPolicies digest effective service = compileRangerPolicies digest model service
  inside : terms.Active now -> forall user resources access,
    AllowedOn (compileRangerPolicies digest effective service) user resources access ↔
      AllowedOn (compileRangerPolicies digest model service) user resources access ∨
        (user = terms.user ∧ model.LeaseEntitles terms.role resources access)

theorem leaseEffect_of_applied
    {digest : Resources -> String}
    {service : String}
    {model effective : RoleModel}
    (valid : forall binding, binding ∈ model.bindings -> binding.Valid model)
    {terms : LeaseTerms}
    {now : Datetime}
    (applied : Applied model effective terms now) :
    LeaseEffect digest service model effective terms now where
  ttl := applied.ttl
  outside := fun inactive => by rw [applied.effective, if_neg inactive]
  inside := by
    intro active user resources access
    rw [applied.effective, if_pos active, allowedOn_compile_iff_entitled valid,
      allowedOn_compile_iff_entitled (bind_valid valid applied.named applied.known),
      bind_entitled_iff]

/-- The compiled policies allow what the roles of a user's bindings permit, grant by
grant, and what every bound user has; a lease adds its role for its user in its window. -/
theorem ranger_relation_exact
    {document model : RoleModel}
    (accepted : loadAccessPolicy document = .ok model)
    (digest : Resources -> String)
    (service : String) :
    (forall user resources access,
      AllowedOn (compileRangerPolicies digest model service) user resources access ↔
        model.Entitled user resources access) ∧
    forall datetimes clock lease now effective report,
      applyBreakGlassLease datetimes clock model lease now = .ok (effective, report) ->
        Exists fun terms : LeaseTerms => terms.Of datetimes lease ∧
          LeaseEffect digest service model effective terms (now.getD clock) := by
  obtain ⟨_, _, _, _, valid⟩ := loadAccessPolicy_eq_ok_iff.mp accepted
  refine ⟨fun _ _ _ => allowedOn_compile_iff_entitled valid, ?_⟩
  intro datetimes clock lease now effective report applied
  obtain ⟨terms, ofLease, bound⟩ := applyBreakGlassLease_eq_ok applied
  exact ⟨terms, ofLease, leaseEffect_of_applied valid bound⟩

/-- Half an hour of one morning. -/
def drillDatetimes : Datetimes where
  fromisoformat text :=
    if text = "2026-08-26T11:55:00+00:00" then
      some { wall := 1787745300000000, offset := some 0 }
    else if text = "2026-08-26T12:25:00+00:00" then
      some { wall := 1787747100000000, offset := some 0 }
    else none
  isoformat _ := "2026-08-26T12:00:00+00:00"

/-- A lease of the writer's role. -/
def drillLease : Json :=
  .object [("schema_version", .string "1.0"), ("grant_id", .string "BG-2026-0042"),
    ("user", .string "incident-responder"), ("role", .string "writer"),
    ("approved_by", .string "incident-commander"), ("ticket", .string "INC-4242"),
    ("reason", .string "restore lakehouse query service"),
    ("issued_at", .string "2026-08-26T11:55:00Z"),
    ("expires_at", .string "2026-08-26T12:25:00Z")]

def drillNow : Datetime := { wall := 1787745600000000, offset := some 0 }

/-- The lease of the drill, while it is active. -/
theorem ranger_relation_exact_drill :
    Exists fun applied =>
      applyBreakGlassLease drillDatetimes drillNow readerAndWriter drillLease none =
        .ok applied ∧
      Exists fun terms : LeaseTerms => terms.Of drillDatetimes drillLease ∧
        LeaseEffect (fun _ => "755eb9e4ae") "trino" readerAndWriter applied.1 terms drillNow :=
  ⟨_, rfl,
    (ranger_relation_exact
      (show loadAccessPolicy readerAndWriter = .ok readerAndWriter from rfl)
      (fun _ => "755eb9e4ae") "trino").2 drillDatetimes drillNow drillLease none _ _ rfl⟩

end Access
end LakehouseOps
