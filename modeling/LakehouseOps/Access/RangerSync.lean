import Mathlib.Data.List.Infix
import LakehouseOps.Library.Job
import LakehouseOps.Library.Reconcile
import LakehouseOps.Access.RangerPolicy

/-!
# Synchronising a Ranger service

The client lists the policies of a service, removes those that Ranger made for
itself, and creates, replaces and deletes policies until the compiled ones are
there. The service is a store of policies with distinct identifiers; it may refuse
any request.
-/

namespace LakehouseOps
namespace Access

open Library
open Library.Reconcile

/-! ## The service -/

/-- The policies of a service, in the order in which they are listed. -/
structure Server where
  policies : List (Entry Policy)
  nextId : Nat
  distinct : (policies.map Entry.id).Nodup
  below : forall entry, entry ∈ policies -> entry.id < nextId

/-- A new policy comes last, with an identifier that was never used. -/
def Server.create (server : Server) (policy : Policy) : Server where
  policies := server.policies ++ [{ id := server.nextId, body := policy }]
  nextId := server.nextId + 1
  distinct := by
    rw [List.map_append, List.nodup_append]
    refine ⟨server.distinct, by simp, ?_⟩
    intro id member other isNew same
    obtain ⟨entry, isEntry, rfl⟩ := List.mem_map.mp member
    have small := server.below entry isEntry
    simp only [List.map_cons, List.map_nil, List.mem_singleton] at isNew
    omega
  below := by
    intro entry member
    rcases List.mem_append.mp member with old | new
    · exact Nat.lt_succ_of_lt (server.below entry old)
    · obtain rfl := List.mem_singleton.mp new
      exact Nat.lt_succ_self _

/-- Put a body in place of that of one policy. -/
def replaceBody (id : Nat) (policy : Policy) (entry : Entry Policy) : Entry Policy :=
  if entry.id = id then { id, body := policy } else entry

@[simp] theorem replaceBody_id (id : Nat) (policy : Policy) (entry : Entry Policy) :
    (replaceBody id policy entry).id = entry.id := by
  unfold replaceBody
  split
  · next same => exact same.symm
  · rfl

/-- A replaced policy keeps its identifier and its place. -/
def Server.replace (server : Server) (id : Nat) (policy : Policy) : Server where
  policies := server.policies.map (replaceBody id policy)
  nextId := server.nextId
  distinct := by
    have sameIds : (server.policies.map (replaceBody id policy)).map Entry.id =
        server.policies.map Entry.id := by
      rw [List.map_map]
      exact List.map_congr_left fun entry _ => replaceBody_id id policy entry
    rw [sameIds]
    exact server.distinct
  below := by
    intro entry member
    obtain ⟨original, isOriginal, rfl⟩ := List.mem_map.mp member
    rw [replaceBody_id]
    exact server.below original isOriginal

def Server.delete (server : Server) (id : Nat) : Server where
  policies := server.policies.filter fun entry => entry.id ≠ id
  nextId := server.nextId
  distinct := server.distinct.sublist (List.filter_sublist.map Entry.id)
  below := fun entry member => server.below entry (List.mem_filter.mp member).1

/-- The requests on policies. -/
inductive Request
  | list
  | create (policy : Policy)
  | replace (id : Nat) (policy : Policy)
  | delete (id : Nat)

/-- The request changes policies. -/
def Request.Writes : Request -> Prop
  | .list => False
  | _ => True

/-- What the service does with a request; an unknown identifier is an error. -/
def Server.handle (server : Server) : Request -> Option Server
  | .list => some server
  | .create policy => some (server.create policy)
  | .replace id policy =>
      if id ∈ server.policies.map Entry.id then some (server.replace id policy) else none
  | .delete id =>
      if id ∈ server.policies.map Entry.id then some (server.delete id) else none

/-- The service with the requests that were sent to it. -/
structure Exchange where
  server : Server
  requests : List Request

/-- The answers with an error status, as a function of the service and the request. -/
abbrev Refusals := Server -> Request -> Option String

/-! ## The client -/

/-- `_request`. A refusal is raised as an error with its text. -/
def send (refusals : Refusals) (request : Request) : Job Exchange String Unit := do
  let exchange <- Job.read
  Job.commit fun exchange => { exchange with requests := exchange.requests ++ [request] }
  match refusals exchange.server request with
  | some problem => Job.fail problem
  | none =>
      match exchange.server.handle request with
      | none => Job.fail "failed with 404"
      | some server => Job.commit fun exchange => { exchange with server }

/-- `str.startswith` -/
def startsWith (text start : String) : Bool :=
  text.toList.take start.toList.length = start.toList

/-- `_is_ranger_bootstrap_policy` -/
def isRangerBootstrapPolicy (serviceUser : String) (policy : Policy) : Bool :=
  let items := policy.policyItems.getD []
  startsWith policy.name "all - " &&
    policy.description.any (fun description => startsWith description "Policy for all - ") &&
    !items.isEmpty &&
    items.all fun item => item.users = [serviceUser] && item.delegateAdmin

/-- `_remove_bootstrap_policies`: the other policies, and how many were removed. -/
def removeBootstrapPolicies (refusals : Refusals) (serviceUser : String) :
    Job Exchange String (List (Entry Policy) × Nat) := do
  send refusals .list
  let exchange <- Job.read
  let existing := exchange.server.policies
  let bootstrap := existing.filter fun entry => isRangerBootstrapPolicy serviceUser entry.body
  bootstrap.foldlM (fun _ entry => send refusals (.delete entry.id)) ()
  return (existing.filter fun entry => entry ∉ bootstrap, bootstrap.length)

/-- `_policy_projection` -/
structure PolicyProjection where
  service : Option String
  name : String
  description : Option String
  policyType : Option Nat
  isEnabled : Option Bool
  isAuditEnabled : Option Bool
  resources : Option Resources
  isDenyAllElse : Option Bool
  policyItems : List PolicyItem
  denyPolicyItems : List PolicyItem
  allowExceptions : List PolicyItem
  denyExceptions : List PolicyItem
  dataMaskPolicyItems : List PolicyItem
  rowFilterPolicyItems : List PolicyItem
  deriving DecidableEq

def policyProjection (policy : Policy) : PolicyProjection where
  service := policy.service
  name := policy.name
  description := policy.description
  policyType := policy.policyType
  isEnabled := policy.isEnabled
  isAuditEnabled := policy.isAuditEnabled
  resources := policy.resources
  isDenyAllElse := policy.isDenyAllElse
  policyItems := policy.policyItems.getD []
  denyPolicyItems := policy.denyPolicyItems.getD []
  allowExceptions := policy.allowExceptions.getD []
  denyExceptions := policy.denyExceptions.getD []
  dataMaskPolicyItems := policy.dataMaskPolicyItems.getD []
  rowFilterPolicyItems := policy.rowFilterPolicyItems.getD []

/-- How policies are compared and found: by name, and otherwise, among those with the
description of managed policies, by their resources. -/
def policyRules : Rules Policy PolicyProjection String (Option Resources) where
  view := policyProjection
  name := PolicyProjection.name
  kind := PolicyProjection.resources
  owned := fun projection => projection.description = some managedDescription

/-- The identifiers in use and the counters of a synchronisation. -/
structure Progress where
  consumedIds : List Nat := []
  created : Nat := 0
  updated : Nat := 0
  unchanged : Nat := 0
  deleted : Nat := 0
  bootstrapDeleted : Nat

/-- The text in Ranger's answer to a policy on resources that another policy has. -/
def conflictText : String :=
  "Another policy already exists for matching resource"

/-- Create a policy. Where it conflicts, bootstrap policies that came late are removed
and the request is sent once more; returned is how many there were. -/
def createPolicy (refusals : Refusals) (serviceUser : String) (policy : Policy) :
    Job Exchange String Nat :=
  Job.recover
    (do
      send refusals (.create policy)
      return 0)
    fun problem => do
      Job.reject (¬conflictText.toList <:+: problem.toList) problem
      let (_, lateBootstrapDeleted) <- removeBootstrapPolicies refusals serviceUser
      Job.reject (lateBootstrapDeleted = 0) problem
      send refusals (.create policy)
      return lateBootstrapDeleted

/-- The step of the loop over the desired policies. -/
def syncPolicy
    (refusals : Refusals)
    (serviceUser : String)
    (existing : List (Entry Policy))
    (progress : Progress)
    (policy : Policy) : Job Exchange String Progress :=
  match lookup policyRules existing progress.consumedIds policy with
  | none => do
      let lateBootstrapDeleted <- createPolicy refusals serviceUser policy
      return { progress with
        bootstrapDeleted := progress.bootstrapDeleted + lateBootstrapDeleted
        created := progress.created + 1 }
  | some current =>
      if policyProjection current.body = policyProjection policy then
        return { progress with
          consumedIds := current.id :: progress.consumedIds
          unchanged := progress.unchanged + 1 }
      else do
        send refusals (.replace current.id policy)
        return { progress with
          consumedIds := current.id :: progress.consumedIds
          updated := progress.updated + 1 }

/-- The step of the loop that deletes stale policies. -/
def deleteStale
    (refusals : Refusals)
    (desired : List Policy)
    (progress : Progress)
    (current : Entry Policy) : Job Exchange String Progress :=
  if Stale policyRules desired progress.consumedIds current then do
    send refusals (.delete current.id)
    return { progress with deleted := progress.deleted + 1 }
  else
    return progress

/-- The counts in the report of a synchronisation. -/
structure SyncReport where
  desired : Nat
  bootstrapDeleted : Nat
  created : Nat
  updated : Nat
  unchanged : Nat
  deleted : Nat
  deriving DecidableEq

/-- The part of `RangerAdminClient.sync` that starts with the desired policies. -/
def syncDesired
    (refusals : Refusals)
    (serviceUser : String)
    (desired : List Policy) : Job Exchange String SyncReport := do
  let (existing, bootstrapDeleted) <- removeBootstrapPolicies refusals serviceUser
  let progress <- desired.foldlM (syncPolicy refusals serviceUser existing) { bootstrapDeleted }
  let progress <- existing.foldlM (deleteStale refusals desired) progress
  return {
    desired := desired.length
    bootstrapDeleted := progress.bootstrapDeleted
    created := progress.created
    updated := progress.updated
    unchanged := progress.unchanged
    deleted := progress.deleted }

/-- `RangerAdminClient.sync`, on the policies of the service. -/
def sync
    (refusals : Refusals)
    (digest : Resources -> String)
    (serviceUser service : String)
    (model : RoleModel) : Job Exchange String SyncReport :=
  syncDesired refusals serviceUser (compileRangerPolicies digest model service)

end Access
end LakehouseOps
