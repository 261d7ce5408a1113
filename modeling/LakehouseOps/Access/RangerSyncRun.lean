import LakehouseOps.Access.RangerSync

/-!
# What a synchronisation leaves

A returning synchronisation is a reconciliation of the listed policies with the
desired ones. One rule for each step of the client says what it leaves on the
service; the loops follow by induction.
-/

namespace LakehouseOps
namespace Access

open Library
open Library.Job
open Library.Reconcile

variable {refusals : Refusals} {serviceUser : String}

/-! ## Requests -/

/-- Every request is sent, whatever the answer is. -/
theorem send_requests (request : Request) (exchange : Exchange) :
    (send refusals request exchange).state.requests = exchange.requests ++ [request] := by
  unfold send
  rw [read_bind_run, commit_bind_run]
  cases refusals exchange.server request with
  | some problem => rfl
  | none => cases exchange.server.handle request <;> rfl

/-- A request that returns was handled by the service. -/
theorem returns_send
    {request : Request}
    {exchange final : Exchange}
    {result : Unit}
    (returned : Returns (send refusals request) exchange result final) :
    exchange.server.handle request = some final.server := by
  unfold send at returned
  obtain ⟨_, _, read, afterRead⟩ := returns_bind_iff.mp returned
  obtain ⟨rfl, rfl⟩ := returns_read_iff.mp read
  obtain ⟨_, _, logged, afterLogged⟩ := returns_bind_iff.mp afterRead
  obtain rfl := returns_commit_iff.mp logged
  split at afterLogged
  · exact absurd afterLogged not_returns_fail
  · split at afterLogged
    · exact absurd afterLogged not_returns_fail
    · next server handled =>
        obtain rfl := returns_commit_iff.mp afterLogged
        exact handled

/-- A request that fails leaves the service alone. -/
theorem send_failed
    {request : Request}
    {exchange : Exchange}
    {problem : String}
    (failed : (send refusals request exchange).result = .error problem) :
    (send refusals request exchange).state.server = exchange.server := by
  unfold send at failed ⊢
  rw [read_bind_run, commit_bind_run] at failed ⊢
  cases refused : refusals exchange.server request with
  | some text => rfl
  | none =>
      rw [refused] at failed
      cases handled : exchange.server.handle request with
      | none => rfl
      | some server =>
          rw [handled] at failed
          exact absurd failed (by simp)

theorem returns_list
    {exchange final : Exchange}
    {result : Unit}
    (returned : Returns (send refusals .list) exchange result final) :
    final.server = exchange.server :=
  (Option.some.inj (returns_send returned)).symm

theorem returns_create
    {policy : Policy}
    {exchange final : Exchange}
    {result : Unit}
    (returned : Returns (send refusals (.create policy)) exchange result final) :
    final.server = exchange.server.create policy :=
  (Option.some.inj (returns_send returned)).symm

theorem returns_replace
    {id : Nat}
    {policy : Policy}
    {exchange final : Exchange}
    {result : Unit}
    (returned : Returns (send refusals (.replace id policy)) exchange result final) :
    final.server = exchange.server.replace id policy := by
  have handled := returns_send returned
  change (if _ then some (exchange.server.replace id policy) else none) = _ at handled
  split at handled
  · exact (Option.some.inj handled).symm
  · exact absurd handled.symm (Option.some_ne_none _)

theorem returns_delete
    {id : Nat}
    {exchange final : Exchange}
    {result : Unit}
    (returned : Returns (send refusals (.delete id)) exchange result final) :
    final.server = exchange.server.delete id := by
  have handled := returns_send returned
  change (if _ then some (exchange.server.delete id) else none) = _ at handled
  split at handled
  · exact (Option.some.inj handled).symm
  · exact absurd handled.symm (Option.some_ne_none _)

/-! ## Bootstrap policies -/

/-- The policies that are not bootstrap policies. -/
def otherPolicies (serviceUser : String) (server : Server) : List (Entry Policy) :=
  server.policies.filter fun entry => !isRangerBootstrapPolicy serviceUser entry.body

/-- Deleting some policies leaves those with other identifiers. -/
theorem returns_deletes
    {entries : List (Entry Policy)}
    {exchange final : Exchange}
    {result : Unit}
    (returned : Returns
      (entries.foldlM (fun _ entry => send refusals (.delete entry.id)) ()) exchange result final) :
    final.server.policies =
      exchange.server.policies.filter fun entry => entry.id ∉ entries.map Entry.id := by
  induction entries generalizing exchange with
  | nil =>
      obtain ⟨_, rfl⟩ := returns_pure_iff.mp returned
      simp
  | cons head entries inductionHypothesis =>
      obtain ⟨_, middle, deleted, rest⟩ := returns_foldlM_cons.mp returned
      rw [inductionHypothesis rest, returns_delete deleted]
      unfold Server.delete
      rw [List.filter_filter]
      refine List.filter_congr fun entry _ => ?_
      rw [Bool.eq_iff_iff, Bool.and_eq_true]
      simp only [decide_eq_true_eq, List.map_cons, List.mem_cons, not_or]
      exact and_comm

/-- Removing the bootstrap policies leaves and returns the others. -/
theorem returns_removeBootstrapPolicies
    {exchange final : Exchange}
    {existing : List (Entry Policy)}
    {count : Nat}
    (returned : Returns (removeBootstrapPolicies refusals serviceUser) exchange
      (existing, count) final) :
    existing = otherPolicies serviceUser exchange.server ∧
      final.server.policies = existing ∧
      count = (exchange.server.policies.filter fun entry =>
        isRangerBootstrapPolicy serviceUser entry.body).length := by
  unfold removeBootstrapPolicies at returned
  obtain ⟨_, listed, listing, afterListing⟩ := returns_bind_iff.mp returned
  have sameServer := returns_list listing
  obtain ⟨_, _, read, afterRead⟩ := returns_bind_iff.mp afterListing
  obtain ⟨rfl, rfl⟩ := returns_read_iff.mp read
  obtain ⟨_, removed, deletes, afterDeletes⟩ := returns_bind_iff.mp afterRead
  obtain ⟨isResult, rfl⟩ := returns_pure_iff.mp afterDeletes
  injection isResult with isExisting isCount
  have others : (exchange.server.policies.filter fun entry =>
        entry ∉ exchange.server.policies.filter fun entry =>
          isRangerBootstrapPolicy serviceUser entry.body) =
      otherPolicies serviceUser exchange.server := by
    refine List.filter_congr fun entry member => ?_
    simp [member]
  rw [sameServer] at isExisting isCount
  refine ⟨isExisting.trans others, ?_, isCount⟩
  rw [returns_deletes deletes, sameServer, isExisting.trans others]
  refine List.filter_congr fun entry member => ?_
  -- Identifiers are distinct, so another policy does not share one with a bootstrap policy.
  rw [Bool.eq_iff_iff, decide_eq_true_iff, Bool.not_eq_true']
  constructor
  · intro notRemoved
    by_contra isBootstrap
    refine notRemoved (List.mem_map_of_mem (List.mem_filter.mpr ⟨member, ?_⟩))
    simpa using isBootstrap
  · intro notBootstrap removed
    obtain ⟨other, isOther, sameId⟩ := List.mem_map.mp removed
    obtain ⟨otherMember, otherBootstrap⟩ := List.mem_filter.mp isOther
    rw [entry_eq_of_id exchange.server.distinct otherMember member sameId, notBootstrap]
      at otherBootstrap
    exact Bool.noConfusion otherBootstrap

/-- The service has no bootstrap policies. -/
def NoBootstrap (serviceUser : String) (server : Server) : Prop :=
  forall entry, entry ∈ server.policies -> isRangerBootstrapPolicy serviceUser entry.body = false

/-- Where there are no bootstrap policies, a policy is created at once. -/
theorem returns_createPolicy
    {policy : Policy}
    {exchange final : Exchange}
    {count : Nat}
    (noBootstrap : NoBootstrap serviceUser exchange.server)
    (returned : Returns (createPolicy refusals serviceUser policy) exchange count final) :
    final.server = exchange.server.create policy := by
  rcases returns_recover returned with direct | ⟨problem, failed, handled⟩
  · obtain ⟨_, _, created, afterCreated⟩ := returns_bind_iff.mp direct
    obtain ⟨_, rfl⟩ := returns_pure_iff.mp afterCreated
    exact returns_create created
  · -- The second attempt needs a bootstrap policy that came late.
    obtain ⟨sendFailed, sameState⟩ := bind_pure_failed failed
    have sameServer := send_failed sendFailed
    rw [sameState] at handled
    obtain ⟨_, _, conflict, afterConflict⟩ := returns_bind_iff.mp handled
    obtain ⟨_, rfl⟩ := returns_reject_iff.mp conflict
    obtain ⟨⟨others, late⟩, _, removal, afterRemoval⟩ := returns_bind_iff.mp afterConflict
    obtain ⟨_, _, isLate⟩ := returns_removeBootstrapPolicies removal
    obtain ⟨_, _, someLate, _⟩ := returns_bind_iff.mp afterRemoval
    refine absurd ?_ (returns_reject_iff.mp someLate).1
    rw [isLate, sameServer, List.filter_eq_nil_iff.mpr]
    · rfl
    · intro entry member
      simp [noBootstrap entry member]

/-! ## The loop over the desired policies -/

/-- The service after some matches: the policies that were there, with their final
bodies, and the new ones. -/
structure Tracks
    (existing : List (Entry Policy))
    (made : List (Match Policy))
    (created : List (Entry Policy))
    (server : Server) : Prop where
  bodies : created.map Entry.body = made.filterMap Match.missing
  policies : server.policies = existing.map (finalEntry policyRules made) ++ created

/-- What the loop relies on: the listed policies are told apart by their identifiers and
are not bootstrap policies, and the desired policies are managed. -/
structure Syncing
    (serviceUser : String)
    (existing : List (Entry Policy))
    (desired : List Policy) : Prop where
  ids : (existing.map Entry.id).Nodup
  noBootstrap : forall entry, entry ∈ existing ->
    isRangerBootstrapPolicy serviceUser entry.body = false
  managed : forall policy, policy ∈ desired -> policy.description = some managedDescription

/-- A managed policy is not a bootstrap policy. -/
theorem not_bootstrap_of_managed
    {policy : Policy}
    (managed : policy.description = some managedDescription) :
    isRangerBootstrapPolicy serviceUser policy = false := by
  have other : startsWith managedDescription "Policy for all - " = false := by decide
  unfold isRangerBootstrapPolicy
  simp [managed, other]

/-- The final body of an entry after one more match. -/
theorem finalBody_append (made : List (Match Policy)) (last : Match Policy)
    (entry : Entry Policy) :
    finalBody policyRules (made ++ [last]) entry =
      if last.Overwrites policyRules entry then last.wanted
      else finalBody policyRules made entry := by
  simp [finalBody]

/-- A match that overwrites nothing leaves the final entries. -/
theorem finalEntry_append_of_not
    {made : List (Match Policy)}
    {last : Match Policy}
    (nothing : forall entry, ¬last.Overwrites policyRules entry) :
    finalEntry policyRules (made ++ [last]) = finalEntry policyRules made := by
  funext entry
  unfold finalEntry
  rw [finalBody_append, if_neg (nothing entry)]

/-- While the desired policies are matched, no bootstrap policy appears. -/
theorem Tracks.noBootstrap
    {existing created : List (Entry Policy)}
    {made : List (Match Policy)}
    {server : Server}
    (tracks : Tracks existing made created server)
    (noneListed : forall entry, entry ∈ existing ->
      isRangerBootstrapPolicy serviceUser entry.body = false)
    (managed : forall one, one ∈ made -> one.wanted.description = some managedDescription) :
    NoBootstrap serviceUser server := by
  intro entry member
  rw [tracks.policies] at member
  rcases List.mem_append.mp member with old | new
  · obtain ⟨original, isOriginal, rfl⟩ := List.mem_map.mp old
    rcases finalBody_cases policyRules made original with
      ⟨own, _⟩ | ⟨before, last, after, split, _, _, body⟩
    · change isRangerBootstrapPolicy serviceUser (finalBody policyRules made original) = false
      rw [own]
      exact noneListed original isOriginal
    · change isRangerBootstrapPolicy serviceUser (finalBody policyRules made original) = false
      rw [body]
      refine not_bootstrap_of_managed (managed last ?_)
      rw [split]
      simp
  · have isMissing : entry.body ∈ made.filterMap Match.missing := by
      rw [← tracks.bodies]
      exact List.mem_map_of_mem new
    obtain ⟨one, isOne, missing⟩ := List.mem_filterMap.mp isMissing
    unfold Match.missing at missing
    split at missing
    · injection missing with same
      rw [← same]
      exact not_bootstrap_of_managed (managed one isOne)
    · exact absurd missing (Option.some_ne_none _).symm

/-- One step of the loop makes the next match. -/
theorem returns_syncPolicy
    {existing created : List (Entry Policy)}
    {desired : List Policy}
    (syncing : Syncing serviceUser existing desired)
    {made : List (Match Policy)}
    (managed : forall one, one ∈ made -> one.wanted.description = some managedDescription)
    {progress next : Progress}
    {policy : Policy}
    {exchange final : Exchange}
    (tracks : Tracks existing made created exchange.server)
    (returned : Returns (syncPolicy refusals serviceUser existing progress policy)
      exchange next final) :
    next.consumedIds =
        markUsed progress.consumedIds (lookup policyRules existing progress.consumedIds policy) ∧
      Exists fun createdNext => Tracks existing
        (made ++ [{ wanted := policy,
                    entry := lookup policyRules existing progress.consumedIds policy }])
        createdNext final.server := by
  unfold syncPolicy at returned
  cases search : lookup policyRules existing progress.consumedIds policy with
  | none =>
      rw [search] at returned
      obtain ⟨_, _, creation, afterCreation⟩ := returns_bind_iff.mp returned
      obtain ⟨rfl, rfl⟩ := returns_pure_iff.mp afterCreation
      have isCreated := returns_createPolicy (tracks.noBootstrap syncing.noBootstrap managed) creation
      refine ⟨rfl, created ++ [{ id := exchange.server.nextId, body := policy }], ?_, ?_⟩
      · rw [List.map_append, List.filterMap_append, tracks.bodies]
        rfl
      · have nothing : forall entry, ¬Match.Overwrites { wanted := policy, entry := none }
            policyRules entry := by
          rintro entry ⟨current, isCurrent, _⟩
          exact absurd isCurrent.symm (Option.some_ne_none _)
        rw [finalEntry_append_of_not nothing, isCreated, ← List.append_assoc, ← tracks.policies]
        rfl
  | some current =>
      simp only [search] at returned
      have currentMember := mem_of_lookup search
      have noneMissing : (made ++ [Match.mk policy (some current)]).filterMap Match.missing =
          made.filterMap Match.missing := by
        rw [List.filterMap_append]
        exact List.append_nil _
      by_cases same : policyProjection current.body = policyProjection policy
      · rw [if_pos same] at returned
        obtain ⟨rfl, rfl⟩ := returns_pure_iff.mp returned
        refine ⟨rfl, created, tracks.bodies.trans noneMissing.symm, ?_⟩
        have nothing : forall entry, ¬Match.Overwrites { wanted := policy, entry := some current }
            policyRules entry := by
          rintro entry ⟨other, isOther, _, differs⟩
          obtain rfl := Option.some.inj isOther
          exact differs same
        rw [finalEntry_append_of_not nothing]
        exact tracks.policies
      · rw [if_neg same] at returned
        obtain ⟨_, _, replacement, afterReplacement⟩ := returns_bind_iff.mp returned
        obtain ⟨rfl, rfl⟩ := returns_pure_iff.mp afterReplacement
        refine ⟨rfl, created, tracks.bodies.trans noneMissing.symm, ?_⟩
        rw [returns_replace replacement]
        change exchange.server.policies.map (replaceBody current.id policy) = _
        have distinct := exchange.server.distinct
        rw [tracks.policies] at distinct ⊢
        rw [List.map_append, List.map_map]
        congr 1
        · refine List.map_congr_left fun entry _ => ?_
          have overwrites : Match.Overwrites { wanted := policy, entry := some current }
              policyRules entry ↔ entry.id = current.id := by
            constructor
            · rintro ⟨other, isOther, sameId, _⟩
              obtain rfl := Option.some.inj isOther
              exact sameId.symm
            · intro sameId
              exact ⟨current, rfl, sameId.symm, same⟩
          unfold finalEntry
          rw [finalBody_append]
          simp only [Function.comp_apply, replaceBody, overwrites]
          split
          · next sameId => rw [sameId]
          · rfl
        · -- New policies have identifiers of their own.
          rw [List.map_append, List.nodup_append, List.map_map] at distinct
          conv_rhs => rw [← List.map_id created]
          refine List.map_congr_left fun entry member => ?_
          have apart := distinct.2.2 current.id
            (List.mem_map.mpr ⟨current, currentMember, rfl⟩) entry.id (List.mem_map_of_mem member)
          exact if_neg (Ne.symm apart)

/-- The loop makes all the matches. -/
theorem returns_syncPolicies
    {existing created : List (Entry Policy)}
    {desired : List Policy}
    (syncing : Syncing serviceUser existing desired)
    {made : List (Match Policy)}
    (managed : forall one, one ∈ made -> one.wanted.description = some managedDescription)
    {progress last : Progress}
    {exchange final : Exchange}
    (tracks : Tracks existing made created exchange.server)
    (returned : Returns (desired.foldlM (syncPolicy refusals serviceUser existing) progress)
      exchange last final) :
    (forall id, id ∈ last.consumedIds ↔ id ∈ progress.consumedIds ∨
        id ∈ (found (matchAll policyRules existing progress.consumedIds desired)).map Entry.id) ∧
      Exists fun createdLast => Tracks existing
        (made ++ matchAll policyRules existing progress.consumedIds desired) createdLast
        final.server := by
  induction desired generalizing made created progress exchange with
  | nil =>
      obtain ⟨rfl, rfl⟩ := returns_pure_iff.mp returned
      refine ⟨fun id => by simp [matchAll, found], created, ?_⟩
      rw [matchAll, List.append_nil]
      exact tracks
  | cons policy desired inductionHypothesis =>
      obtain ⟨next, middle, stepped, rest⟩ := returns_foldlM_cons.mp returned
      obtain ⟨consumed, createdNext, tracksNext⟩ := returns_syncPolicy syncing managed tracks stepped
      have restSyncing : Syncing serviceUser existing desired :=
        ⟨syncing.ids, syncing.noBootstrap,
          fun other member => syncing.managed other (List.mem_cons_of_mem _ member)⟩
      have managedNext : forall one, one ∈ made ++
          [{ wanted := policy,
             entry := lookup policyRules existing progress.consumedIds policy }] ->
          one.wanted.description = some managedDescription := by
        intro one member
        rcases List.mem_append.mp member with earlier | isLast
        · exact managed one earlier
        · obtain rfl := List.mem_singleton.mp isLast
          exact syncing.managed policy List.mem_cons_self
      obtain ⟨consumedLast, createdLast, tracksLast⟩ :=
        inductionHypothesis restSyncing managedNext tracksNext rest
      rw [consumed] at consumedLast tracksLast
      refine ⟨fun id => ?_, createdLast, ?_⟩
      · rw [consumedLast, mem_markUsed]
        simp only [matchAll, found, List.filterMap_cons]
        cases lookup policyRules existing progress.consumedIds policy with
        | none => simp
        | some current => simp [or_assoc, eq_comm]
      · rw [List.append_assoc] at tracksLast
        exact tracksLast

/-! ## The loop over the listed policies -/

/-- Deleting the stale policies leaves those with other identifiers. -/
theorem returns_deleteStales
    {entries : List (Entry Policy)}
    {desired : List Policy}
    {progress last : Progress}
    {exchange final : Exchange}
    (returned : Returns (entries.foldlM (deleteStale refusals desired) progress)
      exchange last final) :
    final.server.policies = exchange.server.policies.filter fun entry =>
      entry.id ∉ (entries.filter fun other =>
        Stale policyRules desired progress.consumedIds other).map Entry.id := by
  induction entries generalizing progress exchange with
  | nil =>
      obtain ⟨_, rfl⟩ := returns_pure_iff.mp returned
      simp
  | cons head entries inductionHypothesis =>
      obtain ⟨next, middle, stepped, rest⟩ := returns_foldlM_cons.mp returned
      unfold deleteStale at stepped
      by_cases stale : Stale policyRules desired progress.consumedIds head
      · rw [if_pos stale] at stepped
        obtain ⟨_, _, deletion, afterDeletion⟩ := returns_bind_iff.mp stepped
        obtain ⟨rfl, rfl⟩ := returns_pure_iff.mp afterDeletion
        rw [inductionHypothesis rest, returns_delete deletion,
          List.filter_cons_of_pos (by simpa using stale)]
        unfold Server.delete
        rw [List.filter_filter]
        refine List.filter_congr fun entry _ => ?_
        rw [Bool.eq_iff_iff, Bool.and_eq_true]
        simp only [decide_eq_true_eq, List.map_cons, List.mem_cons, not_or]
        exact and_comm
      · rw [if_neg stale] at stepped
        obtain ⟨rfl, rfl⟩ := returns_pure_iff.mp stepped
        rw [inductionHypothesis rest, List.filter_cons_of_neg (by simpa using stale)]

/-- A returning synchronisation is a reconciliation of the policies that are not
bootstrap policies. -/
theorem returns_syncDesired
    {desired : List Policy}
    (managed : forall policy, policy ∈ desired -> policy.description = some managedDescription)
    {report : SyncReport}
    {exchange final : Exchange}
    (returned : Returns (syncDesired refusals serviceUser desired) exchange report final) :
    Exists fun created =>
      Outcome policyRules (otherPolicies serviceUser exchange.server) desired
        final.server.policies created ∧
      NoBootstrap serviceUser final.server := by
  unfold syncDesired at returned
  obtain ⟨⟨existing, bootstrapDeleted⟩, listed, removal, afterRemoval⟩ :=
    returns_bind_iff.mp returned
  obtain ⟨isExisting, listedPolicies, _⟩ := returns_removeBootstrapPolicies removal
  obtain ⟨progress, matched, loop, afterLoop⟩ := returns_bind_iff.mp afterRemoval
  obtain ⟨_, _, deletions, afterDeletions⟩ := returns_bind_iff.mp afterLoop
  obtain ⟨_, rfl⟩ := returns_pure_iff.mp afterDeletions
  have syncing : Syncing serviceUser existing desired := by
    refine ⟨listedPolicies ▸ listed.server.distinct, fun entry member => ?_, managed⟩
    rw [isExisting] at member
    simpa using (List.mem_filter.mp member).2
  have atStart : Tracks existing [] [] listed.server := by
    refine ⟨rfl, ?_⟩
    rw [listedPolicies, List.append_nil]
    exact (List.map_id existing).symm
  obtain ⟨consumed, created, tracks⟩ :=
    returns_syncPolicies syncing (fun _ member => absurd member List.not_mem_nil) atStart loop
  rw [List.nil_append] at tracks
  change Tracks existing (matching policyRules existing desired) created matched.server at tracks
  have stale_iff : forall entry, Stale policyRules desired progress.consumedIds entry ↔
      Stale policyRules desired (foundIds policyRules existing desired) entry := by
    intro entry
    refine and_congr_right fun _ => and_congr_right fun _ => not_congr ?_
    rw [consumed]
    simp [foundIds, matching]
  have distinct := matched.server.distinct
  rw [tracks.policies, List.map_append, List.nodup_append, List.map_map] at distinct
  have afterwards := returns_deleteStales deletions
  rw [← isExisting]
  refine ⟨created, ⟨final.server.distinct, tracks.bodies, ?_⟩, ?_⟩
  · rw [afterwards, tracks.policies, List.filter_append, List.filter_map]
    congr 1
    · congr 1
      refine List.filter_congr fun entry member => ?_
      rw [Bool.eq_iff_iff, Function.comp_apply, decide_eq_true_iff, decide_eq_true_iff,
        ← stale_iff]
      refine not_congr ⟨fun deleted => ?_, fun stale => ?_⟩
      · obtain ⟨other, isOther, sameId⟩ := List.mem_map.mp deleted
        obtain ⟨otherMember, otherStale⟩ := List.mem_filter.mp isOther
        obtain rfl := entry_eq_of_id syncing.ids otherMember member sameId
        simpa using otherStale
      · exact List.mem_map.mpr ⟨entry, List.mem_filter.mpr ⟨member, by simpa using stale⟩, rfl⟩
    · -- New policies have identifiers of their own.
      refine List.filter_eq_self.mpr fun entry member => ?_
      rw [decide_eq_true_iff]
      intro deleted
      obtain ⟨other, isOther, sameId⟩ := List.mem_map.mp deleted
      exact distinct.2.2 other.id
        (List.mem_map.mpr ⟨other, (List.mem_filter.mp isOther).1, rfl⟩) entry.id
        (List.mem_map_of_mem member) sameId
  · intro entry member
    rw [afterwards] at member
    refine tracks.noBootstrap syncing.noBootstrap ?_ entry (List.mem_filter.mp member).1
    exact fun one isOne => managed _ (wanted_mem isOne)

/-! ## A synchronisation that changes nothing -/

/-- No request was sent that changes policies. -/
def Quiet (exchange : Exchange) : Prop :=
  forall request, request ∈ exchange.requests -> ¬request.Writes

/-- The job only adds to the requests that were sent. -/
def Grows {Value : Type} (job : Job Exchange String Value) : Prop :=
  forall exchange, exchange.requests <+: (job exchange).state.requests

theorem Quiet.of_grows
    {Value : Type}
    {job : Job Exchange String Value}
    (grows : Grows job)
    {exchange : Exchange}
    (quiet : Quiet (job exchange).state) :
    Quiet exchange :=
  fun request member => quiet request ((grows exchange).subset member)

theorem grows_pure {Value : Type} (value : Value) :
    Grows (pure value : Job Exchange String Value) :=
  fun _ => List.prefix_rfl

theorem grows_send (request : Request) : Grows (send refusals request) := by
  intro exchange
  rw [send_requests]
  exact List.prefix_append _ _

theorem grows_bind
    {Value Result : Type}
    {first : Job Exchange String Value}
    {next : Value -> Job Exchange String Result}
    (firstGrows : Grows first)
    (nextGrows : forall value, Grows (next value)) :
    Grows (first >>= next) := by
  intro exchange
  rw [bind_run]
  unfold continueWith
  cases (first exchange).result with
  | error problem => exact firstGrows exchange
  | ok value => exact (firstGrows exchange).trans (nextGrows value _)

theorem grows_foldlM
    {Value Result : Type}
    {step : Result -> Value -> Job Exchange String Result}
    (stepGrows : forall accumulated value, Grows (step accumulated value))
    (values : List Value)
    (accumulated : Result) :
    Grows (values.foldlM step accumulated) := by
  induction values generalizing accumulated with
  | nil => exact grows_pure accumulated
  | cons value values inductionHypothesis =>
      exact grows_bind (stepGrows accumulated value) inductionHypothesis

/-- Where a sequence sends nothing that changes policies, its first part does not. -/
theorem Quiet.of_bind
    {Value Result : Type}
    {first : Job Exchange String Value}
    {next : Value -> Job Exchange String Result}
    (nextGrows : forall value, Grows (next value))
    {exchange : Exchange}
    (quiet : Quiet ((first >>= next) exchange).state) :
    Quiet (first exchange).state := by
  rw [bind_run] at quiet
  unfold continueWith at quiet
  cases outcome : (first exchange).result with
  | error problem =>
      simp only [outcome] at quiet
      exact quiet
  | ok value =>
      simp only [outcome] at quiet
      exact Quiet.of_grows (nextGrows value) quiet

/-- A request that changes policies is not overlooked. -/
theorem not_quiet_send
    {request : Request}
    (writes : request.Writes)
    (exchange : Exchange) :
    ¬Quiet (send refusals request exchange).state := by
  intro quiet
  have sent : request ∈ (send refusals request exchange).state.requests := by
    rw [send_requests]
    simp
  exact quiet request sent writes

/-- A recovering job sends what the job sends first. -/
theorem grows_recover_from
    {Value : Type}
    {job : Job Exchange String Value}
    {handler : String -> Job Exchange String Value}
    (handlerGrows : forall problem, Grows (handler problem))
    (exchange : Exchange) :
    (job exchange).state.requests <+: (recover job handler exchange).state.requests := by
  unfold recover
  split
  · exact List.prefix_rfl
  · exact handlerGrows _ _

theorem grows_reject {condition : Prop} [Decidable condition] (problem : String) :
    Grows (Job.reject condition problem : Job Exchange String Unit) := by
  intro exchange
  unfold Job.reject
  split
  · exact List.prefix_rfl
  · exact List.prefix_rfl

theorem grows_removeBootstrapPolicies :
    Grows (removeBootstrapPolicies refusals serviceUser) := by
  refine grows_bind (grows_send _) fun _ => grows_bind (fun _ => List.prefix_rfl) fun _ => ?_
  exact grows_bind (grows_foldlM (fun _ _ => grows_send _) _ _) fun _ => grows_pure _

/-- What the client does after a policy was refused. -/
theorem grows_createAgain (policy : Policy) (problem : String) :
    Grows (do
      Job.reject (¬conflictText.toList <:+: problem.toList) problem
      let (_, late) <- removeBootstrapPolicies refusals serviceUser
      Job.reject (late = 0) problem
      send refusals (.create policy)
      return late) := by
  refine grows_bind (grows_reject problem) fun _ => ?_
  refine grows_bind grows_removeBootstrapPolicies fun _ => ?_
  refine grows_bind (grows_reject problem) fun _ => ?_
  exact grows_bind (grows_send _) fun _ => grows_pure _

theorem grows_createPolicy (policy : Policy) :
    Grows (createPolicy refusals serviceUser policy) := by
  intro exchange
  refine List.IsPrefix.trans ?_ (grows_recover_from (grows_createAgain policy) exchange)
  exact grows_bind (grows_send _) (fun _ => grows_pure _) exchange

theorem grows_syncPolicy
    (existing : List (Entry Policy))
    (progress : Progress)
    (policy : Policy) :
    Grows (syncPolicy refusals serviceUser existing progress policy) := by
  unfold syncPolicy
  split
  · exact grows_bind (grows_createPolicy policy) fun _ => grows_pure _
  · split
    · exact grows_pure _
    · exact grows_bind (grows_send _) fun _ => grows_pure _

theorem grows_deleteStale
    (desired : List Policy)
    (progress : Progress)
    (current : Entry Policy) :
    Grows (deleteStale refusals desired progress current) := by
  unfold deleteStale
  split
  · exact grows_bind (grows_send _) fun _ => grows_pure _
  · exact grows_pure _

/-- A step of the loop that sends nothing found its policy as it should be. -/
theorem quiet_syncPolicy
    {existing : List (Entry Policy)}
    {progress : Progress}
    {policy : Policy}
    {exchange : Exchange}
    (quiet : Quiet (syncPolicy refusals serviceUser existing progress policy exchange).state) :
    Exists fun current =>
      lookup policyRules existing progress.consumedIds policy = some current ∧
        policyProjection current.body = policyProjection policy := by
  unfold syncPolicy at quiet
  cases search : lookup policyRules existing progress.consumedIds policy with
  | none =>
      simp only [search] at quiet
      have created := Quiet.of_bind (fun _ => grows_pure _) quiet
      have attempted : Quiet ((send refusals (.create policy) >>= fun _ => pure 0) exchange).state :=
        fun request member =>
          created request ((grows_recover_from (grows_createAgain policy) exchange).subset member)
      have isWrite : Request.Writes (.create policy) := trivial
      exact absurd (Quiet.of_bind (fun _ => grows_pure _) attempted)
        (not_quiet_send isWrite exchange)
  | some current =>
      simp only [search] at quiet
      by_cases same : policyProjection current.body = policyProjection policy
      · exact ⟨current, rfl, same⟩
      · rw [if_neg same] at quiet
        have isWrite : Request.Writes (.replace current.id policy) := trivial
        exact absurd (Quiet.of_bind (fun _ => grows_pure _) quiet)
          (not_quiet_send isWrite exchange)

/-- A policy that is as it should be is passed over. -/
theorem syncPolicy_of_settled
    {existing : List (Entry Policy)}
    {progress : Progress}
    {policy : Policy}
    {current : Entry Policy}
    (search : lookup policyRules existing progress.consumedIds policy = some current)
    (same : policyProjection current.body = policyProjection policy) :
    syncPolicy refusals serviceUser existing progress policy =
      pure { progress with
        consumedIds := current.id :: progress.consumedIds
        unchanged := progress.unchanged + 1 } := by
  unfold syncPolicy
  simp only [search]
  exact if_pos same

/-- Every match found its policy as it should be. -/
def Settled (matched : List (Match Policy)) : Prop :=
  forall made, made ∈ matched -> Exists fun current =>
    made.entry = some current ∧ policyProjection current.body = policyProjection made.wanted

theorem settled_cons_iff
    {existing : List (Entry Policy)}
    {used : List Nat}
    {policy : Policy}
    {desired : List Policy} :
    Settled (matchAll policyRules existing used (policy :: desired)) ↔
      Exists fun current => lookup policyRules existing used policy = some current ∧
        policyProjection current.body = policyProjection policy ∧
        Settled (matchAll policyRules existing (current.id :: used) desired) := by
  unfold Settled
  simp only [matchAll, List.forall_mem_cons]
  constructor
  · rintro ⟨⟨current, search, same⟩, rest⟩
    rw [search] at rest
    exact ⟨current, search, same, rest⟩
  · rintro ⟨current, search, same, rest⟩
    refine ⟨⟨current, search, same⟩, ?_⟩
    rw [search]
    exact rest

/-- The loop over the desired policies sends nothing that changes policies only when all
are settled. -/
theorem settled_of_quiet
    {existing : List (Entry Policy)}
    {desired : List Policy}
    {progress : Progress}
    {exchange : Exchange}
    (quiet : Quiet
      (desired.foldlM (syncPolicy refusals serviceUser existing) progress exchange).state) :
    Settled (matchAll policyRules existing progress.consumedIds desired) := by
  induction desired generalizing progress exchange with
  | nil => exact fun _ member => absurd member List.not_mem_nil
  | cons policy desired inductionHypothesis =>
      rw [List.foldlM_cons] at quiet
      have stepQuiet := Quiet.of_bind
        (fun next => grows_foldlM (grows_syncPolicy existing) desired next) quiet
      obtain ⟨current, search, same⟩ := quiet_syncPolicy stepQuiet
      rw [syncPolicy_of_settled search same, pure_bind_run] at quiet
      exact settled_cons_iff.mpr ⟨current, search, same, inductionHypothesis quiet⟩

/-- Where all are settled, the loop sends nothing and uses the entries it found. -/
theorem syncPolicies_of_settled
    (refusals : Refusals)
    (serviceUser : String)
    {existing : List (Entry Policy)}
    {desired : List Policy}
    {progress : Progress}
    (settled : Settled (matchAll policyRules existing progress.consumedIds desired))
    (exchange : Exchange) :
    Exists fun last =>
      desired.foldlM (syncPolicy refusals serviceUser existing) progress exchange =
        { commits := [], state := exchange, result := .ok last } ∧
      forall id, id ∈ last.consumedIds ↔ id ∈ progress.consumedIds ∨
        id ∈ (found (matchAll policyRules existing progress.consumedIds desired)).map Entry.id := by
  induction desired generalizing progress with
  | nil => exact ⟨progress, rfl, fun id => by simp [matchAll, found]⟩
  | cons policy desired inductionHypothesis =>
      obtain ⟨current, search, same, rest⟩ := settled_cons_iff.mp settled
      let next : Progress := { progress with
        consumedIds := current.id :: progress.consumedIds
        unchanged := progress.unchanged + 1 }
      have restSettled : Settled (matchAll policyRules existing next.consumedIds desired) := rest
      obtain ⟨last, runs, consumed⟩ := inductionHypothesis restSettled
      refine ⟨last, ?_, fun id => ?_⟩
      · rw [List.foldlM_cons, syncPolicy_of_settled search same, pure_bind_run]
        exact runs
      · have marked : next.consumedIds = current.id :: progress.consumedIds := rfl
        rw [consumed, marked]
        simp only [matchAll, search, found, markUsed, List.filterMap_cons, List.map_cons,
          List.mem_cons]
        tauto

/-- The loop over the listed policies sends nothing only when none is stale. -/
theorem nothingStale_of_quiet
    {entries : List (Entry Policy)}
    {desired : List Policy}
    {progress : Progress}
    {exchange : Exchange}
    (quiet : Quiet (entries.foldlM (deleteStale refusals desired) progress exchange).state) :
    forall entry, entry ∈ entries -> ¬Stale policyRules desired progress.consumedIds entry := by
  induction entries generalizing exchange with
  | nil => exact fun _ member => absurd member List.not_mem_nil
  | cons head entries inductionHypothesis =>
      rw [List.foldlM_cons] at quiet
      have stepQuiet := Quiet.of_bind
        (fun next => grows_foldlM (grows_deleteStale desired) entries next) quiet
      unfold deleteStale at stepQuiet quiet
      by_cases stale : Stale policyRules desired progress.consumedIds head
      · rw [if_pos stale] at stepQuiet
        have isWrite : Request.Writes (.delete head.id) := trivial
        exact absurd (Quiet.of_bind (fun _ => grows_pure _) stepQuiet)
          (not_quiet_send isWrite exchange)
      · rw [if_neg stale, pure_bind_run] at quiet
        exact List.forall_mem_cons.mpr ⟨stale, inductionHypothesis quiet⟩

/-- Where none is stale, the loop sends nothing. -/
theorem deleteStales_of_none
    {entries : List (Entry Policy)}
    {desired : List Policy}
    {progress : Progress}
    (noneStale : forall entry, entry ∈ entries ->
      ¬Stale policyRules desired progress.consumedIds entry)
    (exchange : Exchange) :
    entries.foldlM (deleteStale refusals desired) progress exchange =
      { commits := [], state := exchange, result := .ok progress } := by
  induction entries with
  | nil => rfl
  | cons head entries inductionHypothesis =>
      obtain ⟨headStays, tailStays⟩ := List.forall_mem_cons.mp noneStale
      have step : deleteStale refusals desired progress head = pure progress := if_neg headStays
      rw [List.foldlM_cons, step, pure_bind_run]
      exact inductionHypothesis tailStays

theorem send_list (refusals : Refusals) (exchange : Exchange) :
    (send refusals .list exchange).state =
        { exchange with requests := exchange.requests ++ [.list] } ∧
      (send refusals .list exchange).result =
        match refusals exchange.server .list with
        | some problem => .error problem
        | none => .ok () := by
  unfold send
  rw [read_bind_run, commit_bind_run]
  cases refusals exchange.server .list with
  | some problem => exact ⟨rfl, rfl⟩
  | none => exact ⟨rfl, rfl⟩

/-- Where there are no bootstrap policies, one request is sent for the listing. -/
theorem removeBootstrapPolicies_of_none
    (refusals : Refusals)
    {exchange : Exchange}
    (noBootstrap : NoBootstrap serviceUser exchange.server) :
    (removeBootstrapPolicies refusals serviceUser exchange).state =
        { exchange with requests := exchange.requests ++ [.list] } ∧
      (removeBootstrapPolicies refusals serviceUser exchange).result =
        match refusals exchange.server .list with
        | some problem => .error problem
        | none => .ok (exchange.server.policies, 0) := by
  have noneListed : (exchange.server.policies.filter fun entry =>
      isRangerBootstrapPolicy serviceUser entry.body) = [] :=
    List.filter_eq_nil_iff.mpr fun entry member => by simp [noBootstrap entry member]
  obtain ⟨listedState, listedResult⟩ := send_list refusals exchange
  unfold removeBootstrapPolicies
  rw [bind_run]
  unfold continueWith
  cases refused : refusals exchange.server .list with
  | some problem =>
      simp only [refused] at listedResult
      simp only [listedResult, listedState, and_self]
  | none =>
      simp only [refused] at listedResult
      simp only [listedResult, listedState, read_bind_run, noneListed, List.foldlM_nil,
        pure_bind_run, pure_run]
      simp

/-- A further synchronisation sends nothing that changes policies, whatever the service
refuses, exactly when the policies are as they should be. -/
theorem quiet_syncDesired_iff
    {desired : List Policy}
    {server : Server}
    (noBootstrap : NoBootstrap serviceUser server) :
    (forall refusals, Quiet
        (syncDesired refusals serviceUser desired { server, requests := [] }).state) ↔
      Idle policyRules server.policies desired := by
  have listQuiet : forall request, request ∈ [Request.list] -> ¬request.Writes := by
    intro request member
    obtain rfl := List.mem_singleton.mp member
    exact not_false
  have atStart : NoBootstrap serviceUser (Exchange.mk server []).server := noBootstrap
  constructor
  · intro quiet
    have answered := quiet fun _ _ => none
    obtain ⟨listedState, listedResult⟩ :=
      removeBootstrapPolicies_of_none (fun _ _ => none) atStart
    unfold syncDesired at answered
    rw [bind_run] at answered
    unfold continueWith at answered
    simp only [listedResult, listedState] at answered
    have loopQuiet := Quiet.of_bind (fun next =>
      grows_bind (grows_foldlM (grows_deleteStale desired) _ next) fun _ => grows_pure _) answered
    have settled := settled_of_quiet loopQuiet
    obtain ⟨last, runs, consumed⟩ := syncPolicies_of_settled (fun _ _ => none) serviceUser settled
      { server, requests := [] ++ [Request.list] }
    rw [bind_run, runs] at answered
    have deletesQuiet := Quiet.of_bind (fun _ => grows_pure _) answered
    refine ⟨settled, fun entry member stale => ?_⟩
    refine nothingStale_of_quiet deletesQuiet entry member ⟨stale.1, stale.2.1, fun used => ?_⟩
    refine stale.2.2 ?_
    simpa [foundIds, matching] using (consumed entry.id).mp used
  · intro idle refusals
    obtain ⟨listedState, listedResult⟩ := removeBootstrapPolicies_of_none refusals atStart
    unfold syncDesired
    rw [bind_run]
    unfold continueWith
    cases refused : refusals server .list with
    | some problem =>
        simp only [refused] at listedResult
        simp only [listedResult, listedState]
        exact listQuiet
    | none =>
        simp only [refused] at listedResult
        simp only [listedResult, listedState]
        have settled : Settled (matchAll policyRules server.policies
            (Progress.mk [] 0 0 0 0 0).consumedIds desired) := idle.settled
        obtain ⟨last, runs, consumed⟩ := syncPolicies_of_settled refusals serviceUser settled
          { server, requests := [] ++ [Request.list] }
        have noneStale : forall entry, entry ∈ server.policies ->
            ¬Stale policyRules desired last.consumedIds entry := by
          intro entry member stale
          refine idle.nothingStale entry member ⟨stale.1, stale.2.1, fun isFound => ?_⟩
          exact stale.2.2 ((consumed entry.id).mpr (Or.inr isFound))
        rw [bind_run, runs]
        simp only [continueWith]
        rw [bind_run, deleteStales_of_none noneStale]
        exact listQuiet

end Access
end LakehouseOps
