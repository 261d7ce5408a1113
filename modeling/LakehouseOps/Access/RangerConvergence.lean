import LakehouseOps.Access.RangerNames
import LakehouseOps.Access.RangerSyncRun

/-!
# When a synchronisation converges

A returning synchronisation leaves exactly the compiled policies among the managed
ones, and a further one has nothing to do, exactly when the desired policies were
matched to the listed ones without ambiguity.
-/

namespace LakehouseOps
namespace Access

open Library
open Library.Job
open Library.Reconcile

/-- The projections of the managed policies of the service. -/
def Server.managedProjections (server : Server) : List PolicyProjection :=
  (server.policies.filter fun entry =>
    entry.body.description = some managedDescription).map fun entry =>
      policyProjection entry.body

/-- What a synchronisation is for: the managed policies are the compiled ones, each
once, other policies stay, and a further synchronisation has nothing to do. -/
structure Synchronized
    (digest : Resources -> String)
    (serviceUser service : String)
    (model : RoleModel)
    (before after : Server) : Prop where
  once : after.managedProjections.Nodup
  exact : forall projection, projection ∈ after.managedProjections ↔
    projection ∈ (compileRangerPolicies digest model service).map policyProjection
  others : forall entry, entry ∈ before.policies ->
    entry.body.description ≠ some managedDescription ->
      isRangerBootstrapPolicy serviceUser entry.body = false ->
        entry.body.name ∉ (compileRangerPolicies digest model service).map Policy.name ->
          entry ∈ after.policies
  idle : forall refusals, Quiet
    (sync refusals digest serviceUser service model { server := after, requests := [] }).state

theorem ownedViews_policyRules (server : Server) :
    ownedViews policyRules server.policies = server.managedProjections :=
  rfl

theorem setting_otherPolicies
    (digest : Resources -> String)
    (serviceUser service : String)
    (model : RoleModel)
    (server : Server) :
    Setting policyRules (otherPolicies serviceUser server)
      (compileRangerPolicies digest model service) where
  ids := server.distinct.sublist (List.filter_sublist.map Entry.id)
  views := compile_projections_nodup digest model service
  owned := fun _ member => decide_eq_true (managed_of_mem_compile member)

/-- The managed policies are the compiled ones exactly when their projections are a
rearrangement of those. -/
theorem managedProjections_perm_iff
    {digest : Resources -> String}
    {service : String}
    {model : RoleModel}
    {server : Server} :
    server.managedProjections.Perm
        ((compileRangerPolicies digest model service).map policyProjection) ↔
      server.managedProjections.Nodup ∧ forall projection,
        projection ∈ server.managedProjections ↔
          projection ∈ (compileRangerPolicies digest model service).map policyProjection := by
  have apart := compile_projections_nodup digest model service
  constructor
  · intro perm
    exact ⟨perm.nodup_iff.mpr apart, fun projection => perm.mem_iff⟩
  · rintro ⟨once, exactly⟩
    exact (List.perm_ext_iff_of_nodup once apart).mpr exactly

/-- A returning synchronisation converges exactly when every desired policy has a name
and an entry of its own and every managed namesake of a desired policy is matched. -/
theorem sync_converges_iff
    {refusals : Refusals}
    {digest : Resources -> String}
    {serviceUser service : String}
    {model : RoleModel}
    {before : Server}
    {report : SyncReport}
    (returned : (sync refusals digest serviceUser service model
      { server := before, requests := [] }).result = .ok report) :
    Synchronized digest serviceUser service model before
        (sync refusals digest serviceUser service model
          { server := before, requests := [] }).state.server ↔
      Unambiguous policyRules (otherPolicies serviceUser before)
        (compileRangerPolicies digest model service) := by
  obtain ⟨created, outcome, noBootstrap⟩ :=
    returns_syncDesired (fun _ member => managed_of_mem_compile member)
      (returns_of_result returned)
  have setting := setting_otherPolicies digest serviceUser service model before
  rw [← converged_iff_unambiguous setting outcome]
  constructor
  · intro synchronized
    refine ⟨?_, (quiet_syncDesired_iff noBootstrap).mp synchronized.idle⟩
    rw [ownedViews_policyRules]
    exact managedProjections_perm_iff.mpr ⟨synchronized.once, synchronized.exact⟩
  · intro converged
    have views := converged.views
    rw [ownedViews_policyRules] at views
    obtain ⟨once, exactly⟩ := managedProjections_perm_iff.mp views
    refine ⟨once, exactly, ?_, (quiet_syncDesired_iff noBootstrap).mpr converged.idle⟩
    intro entry member notManaged notBootstrap otherName
    have isOther : entry ∈ otherPolicies serviceUser before :=
      List.mem_filter.mpr ⟨member, by simp [notBootstrap]⟩
    exact mem_of_unowned outcome setting.ids isOther (decide_eq_false notManaged) otherName

/-- A filter on the rows of one table. -/
def northernRows (table : String) : RowFilterGrant where
  catalogs := ["lakehouse"]
  schemas := ["silver"]
  tables := [table]
  filter := "region = 'north'"

/-- Two roles, each with a row filter on a table of its own. -/
def filteredReaders : RoleModel where
  schemaVersion := "1.0"
  roles :=
    [("auditor", { rowFilters := [northernRows "orders"] }),
      ("planner", { rowFilters := [northernRows "payments"] })]
  distinctRoles := by decide
  bindings :=
    [{ users := ["ada"], roles := ["auditor"] }, { users := ["bo"], roles := ["planner"] }]
  defaults :=
    { catalogAccess := "none", systemCatalogAccess := "none", queries := [],
      systemInformation := [] }

/-- A service without policies. -/
def emptyServer : Server where
  policies := []
  nextId := 1
  distinct := by decide
  below := by decide

/-- A service that had no policies gets those of the model. -/
theorem sync_converges_from_empty :
    Synchronized (fun _ => "") "platform_admin" "trino" filteredReaders emptyServer
        (sync (fun _ _ => none) (fun _ => "") "platform_admin" "trino" filteredReaders
          { server := emptyServer, requests := [] }).state.server ↔
      Unambiguous policyRules (otherPolicies "platform_admin" emptyServer)
        (compileRangerPolicies (fun _ => "") filteredReaders "trino") := by
  have returned : (sync (fun _ _ => none) (fun _ => "") "platform_admin" "trino" filteredReaders
      { server := emptyServer, requests := [] }).result =
        .ok (SyncReport.mk 3 0 3 0 0 0) := by decide
  exact sync_converges_iff returned

/-- The filter that the second role had before, on the table the first role now has. -/
def movedFilter : Policy :=
  rowFilterPolicy "trino" "lakehouse-ops-planner-row-filter-1"
    [("catalog", resource ["lakehouse"]), ("schema", resource ["silver"]),
      ("table", resource ["orders"])]
    ["bo"] "region = 'north'"

def movedServer : Server where
  policies := [{ id := 1, body := movedFilter }]
  nextId := 2
  distinct := by decide
  below := by
    intro entry member
    obtain rfl := List.mem_singleton.mp member
    decide

/-- The moved filter is found by its resources for the first role and by its name for the
second, which overwrites the first. -/
theorem moved_filter_lost :
    ¬ (forall (refusals : Refusals) (digest : Resources -> String)
      (serviceUser service : String) (document model : RoleModel) (before : Server)
      (report : SyncReport),
      loadAccessPolicy document = .ok model ->
        (sync refusals digest serviceUser service model
          { server := before, requests := [] }).result = .ok report ->
        Synchronized digest serviceUser service model before
          (sync refusals digest serviceUser service model
            { server := before, requests := [] }).state.server) := by
  intro converges
  have synchronized := converges (fun _ _ => none) (fun _ => "") "platform_admin" "trino"
    filteredReaders filteredReaders movedServer (SyncReport.mk 3 0 1 2 0 0) rfl (by decide)
  have auditor : policyProjection
      (rowFilterPolicy "trino" "lakehouse-ops-auditor-row-filter-1"
        [("catalog", resource ["lakehouse"]), ("schema", resource ["silver"]),
          ("table", resource ["orders"])]
        ["ada"] "region = 'north'") ∈
      (compileRangerPolicies (fun _ => "") filteredReaders "trino").map policyProjection := by
    decide
  exact absurd ((synchronized.exact _).mpr auditor) (by decide)

end Access
end LakehouseOps
