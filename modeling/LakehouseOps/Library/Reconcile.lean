import Mathlib.Data.List.Dedup
import Mathlib.Data.List.Induction
import Mathlib.Data.List.Perm.Basic
import Mathlib.Data.List.Nodup
import Mathlib.Data.List.Pairwise

/-!
# Reconciling a store with a list of wanted bodies

A store holds entries with identifiers, some of them owned. Every wanted body is
matched to an entry of the store as it was at the start, by its name and otherwise
by its kind; a matched entry is overwritten where it looks different, an unmatched
body becomes a new entry, and the owned entries that nothing wants are dropped.
The result is characterised by how the wanted bodies were matched.
-/

namespace LakehouseOps
namespace Library
namespace Reconcile

/-- An entry of the store. -/
structure Entry (Body : Type) where
  id : Nat
  body : Body
  deriving DecidableEq

/-- How bodies are seen: only their views are compared. -/
structure Rules (Body View Name Kind : Type) where
  view : Body -> View
  name : View -> Name
  kind : View -> Kind
  owned : View -> Bool

variable {Body View Name Kind : Type} [DecidableEq Name] [DecidableEq Kind]

/-- The view of an entry. -/
def Rules.entryView (rules : Rules Body View Name Kind) (entry : Entry Body) : View :=
  rules.view entry.body

/-- The last entry with the name. -/
def byName (rules : Rules Body View Name Kind) (existing : List (Entry Body)) (wanted : Body) :
    Option (Entry Body) :=
  existing.reverse.find? fun entry =>
    rules.name (rules.entryView entry) = rules.name (rules.view wanted)

/-- The first owned entry of the kind that is not used yet. -/
def byKind
    (rules : Rules Body View Name Kind)
    (existing : List (Entry Body))
    (used : List Nat)
    (wanted : Body) : Option (Entry Body) :=
  existing.find? fun entry =>
    rules.owned (rules.entryView entry) ∧
      rules.kind (rules.entryView entry) = rules.kind (rules.view wanted) ∧ entry.id ∉ used

/-- The entry that a wanted body is matched to. -/
def lookup
    (rules : Rules Body View Name Kind)
    (existing : List (Entry Body))
    (used : List Nat)
    (wanted : Body) : Option (Entry Body) :=
  match byName rules existing wanted with
  | some entry => some entry
  | none => byKind rules existing used wanted

/-- A wanted body and the entry it is matched to. -/
structure Match (Body : Type) where
  wanted : Body
  entry : Option (Entry Body)
  deriving DecidableEq

/-- The identifiers in use once a match is made. -/
def markUsed (used : List Nat) : Option (Entry Body) -> List Nat
  | none => used
  | some entry => entry.id :: used

/-- Match the wanted bodies in turn. -/
def matchAll
    (rules : Rules Body View Name Kind)
    (existing : List (Entry Body)) :
    List Nat -> List Body -> List (Match Body)
  | _, [] => []
  | used, wanted :: rest =>
      let entry := lookup rules existing used wanted
      { wanted, entry } :: matchAll rules existing (markUsed used entry) rest

/-- The entries that were found. -/
def found (matched : List (Match Body)) : List (Entry Body) :=
  matched.filterMap Match.entry

/-- The body to create, where no entry was found. -/
def Match.missing (made : Match Body) : Option Body :=
  match made.entry with
  | none => some made.wanted
  | some _ => none

/-- The matches of a store as it is at the start. -/
def matching
    (rules : Rules Body View Name Kind)
    (existing : List (Entry Body))
    (desired : List Body) : List (Match Body) :=
  matchAll rules existing [] desired

/-! ## How a body is matched -/

section Matching

variable {rules : Rules Body View Name Kind}
  {existing : List (Entry Body)}
  {desired : List Body}

omit [DecidableEq Kind] in
/-- The entry found by name has the name, and no entry after it does. -/
theorem byName_eq_some
    {wanted : Body}
    {entry : Entry Body}
    (isFound : byName rules existing wanted = some entry) :
    rules.name (rules.entryView entry) = rules.name (rules.view wanted) ∧
      Exists fun before => Exists fun after => existing = before ++ entry :: after ∧
        forall other, other ∈ after ->
          rules.name (rules.entryView other) ≠ rules.name (rules.view wanted) := by
  obtain ⟨named, after, before, split, unnamed⟩ := List.find?_eq_some_iff_append.mp isFound
  refine ⟨by simpa using named, before.reverse, after.reverse, ?_, ?_⟩
  · rw [← List.reverse_reverse existing, split]
    simp
  · intro other member
    simpa using unnamed other (List.mem_reverse.mp member)

omit [DecidableEq Kind] in
theorem byName_eq_none {wanted : Body} :
    byName rules existing wanted = none ↔
      forall entry, entry ∈ existing ->
        rules.name (rules.entryView entry) ≠ rules.name (rules.view wanted) := by
  simp [byName]

omit [DecidableEq Kind] in
/-- Only the name of the wanted body matters to the search by name. -/
theorem byName_congr
    {left right : Body}
    (sameName : rules.name (rules.view left) = rules.name (rules.view right)) :
    byName rules existing left = byName rules existing right := by
  unfold byName
  rw [sameName]

omit [DecidableEq Name] in
/-- The entry found by kind is of the kind and not in use, and no such entry precedes
it. -/
theorem byKind_eq_some
    {used : List Nat}
    {wanted : Body}
    {entry : Entry Body}
    (isFound : byKind rules existing used wanted = some entry) :
    rules.owned (rules.entryView entry) = true ∧
      rules.kind (rules.entryView entry) = rules.kind (rules.view wanted) ∧
      entry.id ∉ used ∧
      Exists fun before => Exists fun after => existing = before ++ entry :: after ∧
        forall other, other ∈ before ->
          rules.owned (rules.entryView other) = true ->
            rules.kind (rules.entryView other) = rules.kind (rules.view wanted) ->
              other.id ∈ used := by
  obtain ⟨isCandidate, before, after, split, others⟩ := List.find?_eq_some_iff_append.mp isFound
  simp only [decide_eq_true_eq] at isCandidate
  obtain ⟨isOwned, sameKind, unused⟩ := isCandidate
  refine ⟨isOwned, sameKind, unused, before, after, split, ?_⟩
  intro other member otherOwned otherKind
  have rejected := others other member
  simp only [otherOwned, otherKind, true_and, Bool.not_eq_true', decide_eq_false_iff_not,
    not_not] at rejected
  exact rejected

/-- A body is matched by its name, or no entry has its name and it is matched by its
kind. -/
theorem lookup_eq_some
    {used : List Nat}
    {wanted : Body}
    {entry : Entry Body}
    (isFound : lookup rules existing used wanted = some entry) :
    byName rules existing wanted = some entry ∨
      byName rules existing wanted = none ∧ byKind rules existing used wanted = some entry := by
  unfold lookup at isFound
  split at isFound
  · next named => exact Or.inl (named.trans isFound)
  · next unnamed => exact Or.inr ⟨unnamed, isFound⟩

theorem mem_of_lookup
    {used : List Nat}
    {wanted : Body}
    {entry : Entry Body}
    (isFound : lookup rules existing used wanted = some entry) :
    entry ∈ existing := by
  rcases lookup_eq_some isFound with named | ⟨_, ofKind⟩
  · obtain ⟨_, before, after, rfl, _⟩ := byName_eq_some named
    simp
  · obtain ⟨_, _, _, before, after, rfl, _⟩ := byKind_eq_some ofKind
    simp

/-- A body whose name some entry has is matched by its name. -/
theorem lookup_of_byName
    {used : List Nat}
    {wanted : Body}
    {entry : Entry Body}
    (named : byName rules existing wanted = some entry) :
    lookup rules existing used wanted = some entry := by
  unfold lookup
  rw [named]

@[simp] theorem matchAll_wanted (used : List Nat) :
    (matchAll rules existing used desired).map Match.wanted = desired := by
  induction desired generalizing used with
  | nil => rfl
  | cons wanted rest inductionHypothesis => simp [matchAll, inductionHypothesis]

omit [DecidableEq Name] [DecidableEq Kind] in
theorem mem_markUsed {used : List Nat} {entry : Option (Entry Body)} {id : Nat} :
    id ∈ markUsed used entry ↔ id ∈ used ∨ Exists fun current =>
      entry = some current ∧ current.id = id := by
  cases entry with
  | none => simp [markUsed]
  | some current => simp [markUsed, or_comm, eq_comm]

/-- Each match was made by a lookup, with identifiers in use that were in use at the
start or were found. -/
theorem lookup_of_mem_matchAll
    {used : List Nat}
    {made : Match Body}
    (member : made ∈ matchAll rules existing used desired) :
    Exists fun inUse => made.entry = lookup rules existing inUse made.wanted ∧
      (forall id, id ∈ used -> id ∈ inUse) ∧
      forall id, id ∈ inUse ->
        id ∈ used ∨ id ∈ (found (matchAll rules existing used desired)).map Entry.id := by
  induction desired generalizing used with
  | nil => exact absurd member List.not_mem_nil
  | cons wanted rest inductionHypothesis =>
      rcases List.mem_cons.mp member with rfl | later
      · exact ⟨used, rfl, fun _ isUsed => isUsed, fun _ isUsed => Or.inl isUsed⟩
      · obtain ⟨inUse, isLookup, keeps, from_used⟩ := inductionHypothesis later
        refine ⟨inUse, isLookup,
          fun id isUsed => keeps id (mem_markUsed.mpr (Or.inl isUsed)), fun id isUsed => ?_⟩
        simp only [matchAll, found, List.filterMap_cons]
        rcases from_used id isUsed with marked | laterFound
        · rcases mem_markUsed.mp marked with atStart | ⟨current, isCurrent, rfl⟩
          · exact Or.inl atStart
          · right
            rw [isCurrent]
            exact List.mem_cons_self
        · right
          split
          · exact laterFound
          · exact List.mem_cons_of_mem _ laterFound

/-- An entry that was found before is found again only by name. -/
theorem matchAll_pairwise (used : List Nat) :
    (matchAll rules existing used desired).Pairwise fun first second =>
      forall entry again, first.entry = some entry -> second.entry = some again ->
        again.id = entry.id -> byName rules existing second.wanted = some again := by
  have byNameOfUsed : forall {used : List Nat} {rest : List Body} {made : Match Body},
      made ∈ matchAll rules existing used rest -> forall again, made.entry = some again ->
        again.id ∈ used -> byName rules existing made.wanted = some again := by
    intro used rest made member again isFound isUsed
    obtain ⟨inUse, isLookup, keeps, _⟩ := lookup_of_mem_matchAll member
    rcases lookup_eq_some (isLookup.symm.trans isFound) with named | ⟨_, ofKind⟩
    · exact named
    · exact absurd (keeps _ isUsed) (byKind_eq_some ofKind).2.2.1
  induction desired generalizing used with
  | nil => exact List.Pairwise.nil
  | cons wanted rest inductionHypothesis =>
      refine List.Pairwise.cons ?_ (inductionHypothesis _)
      intro second member entry again isFirst isSecond sameId
      refine byNameOfUsed member again isSecond (mem_markUsed.mpr (Or.inr ⟨entry, isFirst, ?_⟩))
      exact sameId.symm

theorem matching_pairwise
    (rules : Rules Body View Name Kind)
    (existing : List (Entry Body))
    (desired : List Body) :
    (matching rules existing desired).Pairwise fun first second =>
      forall entry again, first.entry = some entry -> second.entry = some again ->
        again.id = entry.id -> byName rules existing second.wanted = some again :=
  matchAll_pairwise []

end Matching

/-! ## What is left at the end -/

section FinalBody

variable [DecidableEq View]

/-- The match overwrites the entry. -/
def Match.Overwrites
    (made : Match Body)
    (rules : Rules Body View Name Kind)
    (entry : Entry Body) : Prop :=
  Exists fun current => made.entry = some current ∧
    (current.id = entry.id ∧ rules.entryView current ≠ rules.view made.wanted)

instance (made : Match Body) (rules : Rules Body View Name Kind) (entry : Entry Body) :
    Decidable (made.Overwrites rules entry) :=
  decidable_of_iff
    (made.entry.any fun current =>
      current.id = entry.id ∧ rules.entryView current ≠ rules.view made.wanted)
    (by simp [Match.Overwrites, Option.any_eq_true])

/-- The body of an entry after all the matches. -/
def finalBody
    (rules : Rules Body View Name Kind)
    (matched : List (Match Body))
    (entry : Entry Body) : Body :=
  matched.foldl (fun body made => if made.Overwrites rules entry then made.wanted else body)
    entry.body

/-- The entry with its body after all the matches. -/
def finalEntry
    (rules : Rules Body View Name Kind)
    (matched : List (Match Body))
    (entry : Entry Body) : Entry Body :=
  { id := entry.id, body := finalBody rules matched entry }

omit [DecidableEq Name] [DecidableEq Kind] in
/-- The final body of an entry is its own, or that of the last match to overwrite it. -/
theorem finalBody_cases 
    (rules : Rules Body View Name Kind)
    (matched : List (Match Body))
    (entry : Entry Body) :
    (finalBody rules matched entry = entry.body ∧
        forall made, made ∈ matched -> ¬made.Overwrites rules entry) ∨
      Exists fun before => Exists fun made => Exists fun after =>
        matched = before ++ made :: after ∧ made.Overwrites rules entry ∧
          (forall later, later ∈ after -> ¬later.Overwrites rules entry) ∧
          finalBody rules matched entry = made.wanted := by
  induction matched using List.reverseRec with
  | nil => exact Or.inl ⟨rfl, fun _ member => absurd member List.not_mem_nil⟩
  | append_singleton matched last inductionHypothesis =>
      have step : finalBody rules (matched ++ [last]) entry =
          if last.Overwrites rules entry then last.wanted
          else finalBody rules matched entry := by
        simp [finalBody]
      by_cases overwrites : last.Overwrites rules entry
      · rw [if_pos overwrites] at step
        refine Or.inr ⟨matched, last, [], rfl, overwrites, ?_, step⟩
        exact fun _ member => absurd member List.not_mem_nil
      · rw [if_neg overwrites] at step
        rcases inductionHypothesis with ⟨own, none⟩ | ⟨before, made, after, rfl, isLast⟩
        · refine Or.inl ⟨step.trans own, fun made member => ?_⟩
          rcases List.mem_append.mp member with earlier | rest
          · exact none made earlier
          · obtain rfl := List.mem_singleton.mp rest
            exact overwrites
        · obtain ⟨madeOverwrites, others, body⟩ := isLast
          refine Or.inr ⟨before, made, after ++ [last], by simp, madeOverwrites, ?_,
            step.trans body⟩
          intro later member
          rcases List.mem_append.mp member with earlier | rest
          · exact others later earlier
          · obtain rfl := List.mem_singleton.mp rest
            exact overwrites

end FinalBody

variable [DecidableEq View]

/-- The names that are wanted. -/
def wantedNames (rules : Rules Body View Name Kind) (desired : List Body) : List Name :=
  desired.map fun wanted => rules.name (rules.view wanted)

/-- An owned entry that nothing wants. -/
def Stale
    (rules : Rules Body View Name Kind)
    (desired : List Body)
    (used : List Nat)
    (entry : Entry Body) : Prop :=
  rules.owned (rules.entryView entry) ∧
    rules.name (rules.entryView entry) ∉ wantedNames rules desired ∧ entry.id ∉ used

instance
    (rules : Rules Body View Name Kind) (desired : List Body) (used : List Nat)
    (entry : Entry Body) : Decidable (Stale rules desired used entry) :=
  inferInstanceAs (Decidable (_ ∧ _ ∧ _))

/-- The identifiers of the entries that were found. -/
def foundIds
    (rules : Rules Body View Name Kind)
    (existing : List (Entry Body))
    (desired : List Body) : List Nat :=
  (found (matching rules existing desired)).map Entry.id

/-- The entries that are not dropped. -/
def kept
    (rules : Rules Body View Name Kind)
    (existing : List (Entry Body))
    (desired : List Body) : List (Entry Body) :=
  existing.filter fun entry => ¬Stale rules desired (foundIds rules existing desired) entry

/-- What a reconciliation leaves: the entries that are kept, with their final bodies,
and an entry for each body that was not matched. -/
structure Outcome
    (rules : Rules Body View Name Kind)
    (existing : List (Entry Body))
    (desired : List Body)
    (result created : List (Entry Body)) : Prop where
  ids : (result.map Entry.id).Nodup
  bodies : created.map Entry.body = (matching rules existing desired).filterMap Match.missing
  entries : result =
    (kept rules existing desired).map (finalEntry rules (matching rules existing desired)) ++
      created

/-- What the results below share: entries have distinct identifiers, and wanted bodies
are owned and look different from each other. -/
structure Setting
    (rules : Rules Body View Name Kind)
    (existing : List (Entry Body))
    (desired : List Body) : Prop where
  ids : (existing.map Entry.id).Nodup
  views : (desired.map rules.view).Nodup
  owned : forall wanted, wanted ∈ desired -> rules.owned (rules.view wanted) = true

/-- The views of the owned entries. -/
def ownedViews (rules : Rules Body View Name Kind) (entries : List (Entry Body)) : List View :=
  (entries.filter fun entry => rules.owned (rules.entryView entry)).map rules.entryView

/-- A reconciliation that would change nothing. -/
structure Idle
    (rules : Rules Body View Name Kind)
    (existing : List (Entry Body))
    (desired : List Body) : Prop where
  settled : forall made, made ∈ matching rules existing desired ->
    Exists fun entry =>
      made.entry = some entry ∧ rules.entryView entry = rules.view made.wanted
  nothingStale : forall entry, entry ∈ existing ->
    ¬Stale rules desired (foundIds rules existing desired) entry

/-- The owned entries look like the wanted bodies, one for each, and a further
reconciliation would change nothing. -/
structure Converged
    (rules : Rules Body View Name Kind)
    (result : List (Entry Body))
    (desired : List Body) : Prop where
  views : (ownedViews rules result).Perm (desired.map rules.view)
  idle : Idle rules result desired

/-- Every wanted body has its own name and its own entry, and every owned entry with a
wanted name is matched. -/
structure Unambiguous
    (rules : Rules Body View Name Kind)
    (existing : List (Entry Body))
    (desired : List Body) : Prop where
  names : (wantedNames rules desired).Nodup
  entries : (foundIds rules existing desired).Nodup
  namesakes : forall entry, entry ∈ existing -> rules.owned (rules.entryView entry) = true ->
    rules.name (rules.entryView entry) ∈ wantedNames rules desired ->
      entry.id ∈ foundIds rules existing desired

section Outcomes

variable {rules : Rules Body View Name Kind}
  {existing result created : List (Entry Body)}
  {desired : List Body}

omit [DecidableEq View] in
theorem mem_foundIds {id : Nat} :
    id ∈ foundIds rules existing desired ↔
      Exists fun made => made ∈ matching rules existing desired ∧
        Exists fun entry => made.entry = some entry ∧ entry.id = id := by
  simp only [foundIds, found, List.mem_map, List.mem_filterMap]
  constructor
  · rintro ⟨entry, ⟨made, member, isFound⟩, sameId⟩
    exact ⟨made, member, entry, isFound, sameId⟩
  · rintro ⟨made, member, entry, isFound, sameId⟩
    exact ⟨entry, ⟨made, member, isFound⟩, sameId⟩

omit [DecidableEq View] in
theorem wanted_mem {made : Match Body} (member : made ∈ matching rules existing desired) :
    made.wanted ∈ desired := by
  have wanted : (matching rules existing desired).map Match.wanted = desired := matchAll_wanted []
  rw [← wanted]
  exact List.mem_map_of_mem member

omit [DecidableEq View] in
theorem exists_match {wanted : Body} (isWanted : wanted ∈ desired) :
    Exists fun made => made ∈ matching rules existing desired ∧ made.wanted = wanted := by
  have wanted : (matching rules existing desired).map Match.wanted = desired := matchAll_wanted []
  rw [← wanted] at isWanted
  exact List.mem_map.mp isWanted

omit [DecidableEq View] in
/-- The lookup of a match, and that no identifier was in use without being found. -/
theorem lookup_of_mem_matching
    {made : Match Body}
    (member : made ∈ matching rules existing desired) :
    Exists fun inUse => made.entry = lookup rules existing inUse made.wanted ∧
      forall id, id ∈ inUse -> id ∈ foundIds rules existing desired := by
  obtain ⟨inUse, isLookup, _, fromUsed⟩ := lookup_of_mem_matchAll member
  refine ⟨inUse, isLookup, fun id isUsed => ?_⟩
  rcases fromUsed id isUsed with none | isFound
  · exact absurd none List.not_mem_nil
  · exact isFound

omit [DecidableEq View] in
theorem entry_mem
    {made : Match Body}
    {entry : Entry Body}
    (member : made ∈ matching rules existing desired)
    (isFound : made.entry = some entry) :
    entry ∈ existing := by
  obtain ⟨_, isLookup, _⟩ := lookup_of_mem_matching member
  exact mem_of_lookup (isLookup.symm.trans isFound)

/-- An entry that was not found keeps its body. -/
theorem finalBody_of_not_found
    {entry : Entry Body}
    (notFound : entry.id ∉ foundIds rules existing desired) :
    finalBody rules (matching rules existing desired) entry = entry.body := by
  rcases finalBody_cases rules (matching rules existing desired) entry with
    ⟨own, _⟩ | ⟨before, made, after, split, overwrites, _⟩
  · exact own
  · obtain ⟨current, isFound, sameId, _⟩ := overwrites
    refine absurd (mem_foundIds.mpr ⟨made, ?_, current, isFound, sameId⟩) notFound
    rw [split]
    simp

/-- An entry that was found is owned at the end. -/
theorem owned_finalBody
    (setting : Setting rules existing desired)
    {made : Match Body}
    {entry : Entry Body}
    (member : made ∈ matching rules existing desired)
    (isFound : made.entry = some entry) :
    rules.owned (rules.view (finalBody rules (matching rules existing desired) entry)) = true := by
  rcases finalBody_cases rules (matching rules existing desired) entry with
    ⟨own, notOverwritten⟩ | ⟨before, last, after, split, _, _, body⟩
  · have same : rules.entryView entry = rules.view made.wanted := by
      by_contra differs
      exact notOverwritten made member ⟨entry, isFound, rfl, differs⟩
    rw [own]
    change rules.owned (rules.entryView entry) = true
    rw [same]
    exact setting.owned _ (wanted_mem member)
  · rw [body]
    have lastMember : last ∈ matching rules existing desired := by
      rw [split]
      simp
    exact setting.owned _ (wanted_mem lastMember)

omit [DecidableEq View] [DecidableEq Name] [DecidableEq Kind] in
/-- Entries of a store are told apart by their identifiers. -/
theorem entry_eq_of_id
    {entries : List (Entry Body)}
    (ids : (entries.map Entry.id).Nodup)
    {left right : Entry Body}
    (leftMember : left ∈ entries)
    (rightMember : right ∈ entries)
    (sameId : left.id = right.id) :
    left = right :=
  List.inj_on_of_nodup_map ids leftMember rightMember sameId

omit [DecidableEq View] [DecidableEq Name] [DecidableEq Kind] in
/-- Wanted bodies with distinct names are told apart by their names. -/
theorem wanted_eq_of_name
    (names : (wantedNames rules desired).Nodup)
    {left right : Body}
    (leftMember : left ∈ desired)
    (rightMember : right ∈ desired)
    (sameName : rules.name (rules.view left) = rules.name (rules.view right)) :
    left = right :=
  List.inj_on_of_nodup_map names leftMember rightMember sameName

omit [DecidableEq View] [DecidableEq Name] [DecidableEq Kind] in
theorem name_mem_wantedNames {wanted : Body} (isWanted : wanted ∈ desired) :
    rules.name (rules.view wanted) ∈ wantedNames rules desired :=
  List.mem_map_of_mem isWanted

omit [DecidableEq View] in
theorem found_mem_kept
    {entry : Entry Body}
    (member : entry ∈ existing)
    (isFound : entry.id ∈ foundIds rules existing desired) :
    entry ∈ kept rules existing desired :=
  List.mem_filter.mpr ⟨member, by simp [Stale, isFound]⟩

/-- A kept entry that is owned at the end was found, unless it is a namesake. -/
theorem found_of_owned
    (namesakes : forall entry, entry ∈ existing -> rules.owned (rules.entryView entry) = true ->
      rules.name (rules.entryView entry) ∈ wantedNames rules desired ->
        entry.id ∈ foundIds rules existing desired)
    {entry : Entry Body}
    (isKept : entry ∈ kept rules existing desired)
    (isOwned : rules.owned
      (rules.view (finalBody rules (matching rules existing desired) entry)) = true) :
    entry.id ∈ foundIds rules existing desired := by
  by_contra notFound
  obtain ⟨member, notStale⟩ := List.mem_filter.mp isKept
  replace notStale : ¬Stale rules desired (foundIds rules existing desired) entry := by
    simpa using notStale
  rw [finalBody_of_not_found notFound] at isOwned
  refine notFound (namesakes entry member isOwned ?_)
  by_contra unwanted
  exact notStale ⟨isOwned, unwanted, notFound⟩

omit [DecidableEq View] in
/-- The wanted bodies are those that were matched and those that were not. -/
theorem wanted_perm {Value : Type} (value : Body -> Value) (matched : List (Match Body)) :
    (matched.map fun made => value made.wanted).Perm
      ((matched.filterMap fun made => made.entry.map fun _ => value made.wanted) ++
        (matched.filterMap Match.missing).map value) := by
  induction matched with
  | nil => exact List.Perm.nil
  | cons made matched inductionHypothesis =>
      cases entry : made.entry with
      | none =>
          simp only [List.map_cons, List.filterMap_cons, entry, Option.map_none, Match.missing]
          exact (inductionHypothesis.cons _).trans List.perm_middle.symm
      | some current =>
          simp only [List.map_cons, List.filterMap_cons, entry, Option.map_some, Match.missing,
            List.cons_append]
          exact inductionHypothesis.cons _

/-- A new entry has a wanted body that was not matched. -/
theorem created_missing
    (outcome : Outcome rules existing desired result created)
    {entry : Entry Body}
    (member : entry ∈ created) :
    Exists fun made => made ∈ matching rules existing desired ∧ made.entry = none ∧
      made.wanted = entry.body := by
  have isMissing : entry.body ∈ (matching rules existing desired).filterMap Match.missing := by
    rw [← outcome.bodies]
    exact List.mem_map_of_mem member
  obtain ⟨made, madeMember, missing⟩ := List.mem_filterMap.mp isMissing
  unfold Match.missing at missing
  split at missing
  · next none => exact ⟨made, madeMember, none, Option.some.inj missing⟩
  · exact absurd missing (Option.some_ne_none _).symm

theorem created_owned
    (setting : Setting rules existing desired)
    (outcome : Outcome rules existing desired result created)
    {entry : Entry Body}
    (member : entry ∈ created) :
    rules.owned (rules.entryView entry) = true := by
  obtain ⟨made, madeMember, _, wanted⟩ := created_missing outcome member
  change rules.owned (rules.view entry.body) = true
  rw [← wanted]
  exact setting.owned _ (wanted_mem madeMember)

/-- The owned entries at the end: the found ones and the new ones. -/
theorem ownedViews_outcome
    (setting : Setting rules existing desired)
    (outcome : Outcome rules existing desired result created)
    (namesakes : forall entry, entry ∈ existing -> rules.owned (rules.entryView entry) = true ->
      rules.name (rules.entryView entry) ∈ wantedNames rules desired ->
        entry.id ∈ foundIds rules existing desired) :
    ownedViews rules result =
      (existing.filter fun entry => entry.id ∈ foundIds rules existing desired).map
          (fun entry => rules.view (finalBody rules (matching rules existing desired) entry)) ++
        ((matching rules existing desired).filterMap Match.missing).map rules.view := by
  have newOwned : (created.filter fun entry => rules.owned (rules.entryView entry)) = created :=
    List.filter_eq_self.mpr fun _ member => created_owned setting outcome member
  have keptOwned : ((kept rules existing desired).filter fun entry => rules.owned
        (rules.view (finalBody rules (matching rules existing desired) entry))) =
      existing.filter fun entry => entry.id ∈ foundIds rules existing desired := by
    unfold kept
    rw [List.filter_filter]
    refine List.filter_congr fun entry member => ?_
    rw [Bool.eq_iff_iff, Bool.and_eq_true, decide_eq_true_iff, decide_eq_true_iff]
    constructor
    · rintro ⟨isOwned, notStale⟩
      refine found_of_owned namesakes (List.mem_filter.mpr ⟨member, ?_⟩) isOwned
      simpa using notStale
    · intro isFound
      obtain ⟨made, madeMember, current, isEntry, sameId⟩ := mem_foundIds.mp isFound
      obtain rfl := entry_eq_of_id setting.ids (entry_mem madeMember isEntry) member sameId
      exact ⟨owned_finalBody setting madeMember isEntry, fun stale => stale.2.2 isFound⟩
  rw [ownedViews, outcome.entries, List.filter_append, List.map_append, newOwned,
    ← outcome.bodies, List.map_map, List.filter_map, List.map_map]
  congr 1
  rw [← keptOwned]
  rfl

/-- A found entry looks like the body it was matched to, when no other match found it. -/
theorem view_finalBody
    (entries : (foundIds rules existing desired).Nodup)
    {made : Match Body}
    {entry : Entry Body}
    (member : made ∈ matching rules existing desired)
    (isFound : made.entry = some entry) :
    rules.view (finalBody rules (matching rules existing desired) entry) =
      rules.view made.wanted := by
  rcases finalBody_cases rules (matching rules existing desired) entry with
    ⟨own, notOverwritten⟩ | ⟨before, last, after, split, overwrites, _, body⟩
  · rw [own]
    by_contra differs
    exact notOverwritten made member ⟨entry, isFound, rfl, differs⟩
  · obtain ⟨current, isCurrent, sameId, _⟩ := overwrites
    have lastMember : last ∈ matching rules existing desired := by
      rw [split]
      simp
    have apart := entries
    rw [foundIds, found, List.Nodup, List.pairwise_map, List.pairwise_filterMap] at apart
    have sameMatch : made = last := by
      by_contra differs
      have symmetric : Std.Symm fun first second : Match Body =>
          forall left, first.entry = some left -> forall right, second.entry = some right ->
            left.id ≠ right.id :=
        ⟨fun _ _ different left isLeft right isRight same =>
          different right isRight left isLeft same.symm⟩
      exact apart.forall member lastMember differs entry isFound current isCurrent sameId.symm
    rw [body, sameMatch]

omit [DecidableEq View] in
/-- The found entries, each once. -/
theorem found_perm
    (setting : Setting rules existing desired)
    (entries : (foundIds rules existing desired).Nodup) :
    (existing.filter fun entry => entry.id ∈ foundIds rules existing desired).Perm
      (found (matching rules existing desired)) := by
  have existingApart : existing.Nodup := List.Nodup.of_map Entry.id setting.ids
  have foundApart : (found (matching rules existing desired)).Nodup :=
    List.Nodup.of_map Entry.id entries
  refine (List.perm_ext_iff_of_nodup (existingApart.filter _) foundApart).mpr fun entry => ?_
  simp only [List.mem_filter, decide_eq_true_eq]
  constructor
  · rintro ⟨member, isFound⟩
    obtain ⟨made, madeMember, current, isEntry, sameId⟩ := mem_foundIds.mp isFound
    obtain rfl := entry_eq_of_id setting.ids (entry_mem madeMember isEntry) member sameId
    exact List.mem_filterMap.mpr ⟨made, madeMember, isEntry⟩
  · intro isFound
    obtain ⟨made, madeMember, isEntry⟩ := List.mem_filterMap.mp isFound
    exact ⟨entry_mem madeMember isEntry, List.mem_map_of_mem isFound⟩

/-- Unambiguous matches leave one owned entry for each wanted body. -/
theorem ownedViews_perm
    (setting : Setting rules existing desired)
    (outcome : Outcome rules existing desired result created)
    (unambiguous : Unambiguous rules existing desired) :
    (ownedViews rules result).Perm (desired.map rules.view) := by
  have wanted : (matching rules existing desired).map Match.wanted = desired := matchAll_wanted []
  have foundViews : (found (matching rules existing desired)).map
        (fun entry => rules.view (finalBody rules (matching rules existing desired) entry)) =
      (matching rules existing desired).filterMap fun made =>
        made.entry.map fun _ => rules.view made.wanted := by
    unfold found
    rw [List.map_filterMap]
    refine List.filterMap_congr fun made member => ?_
    cases isEntry : made.entry with
    | none => rfl
    | some entry =>
        exact congrArg some (view_finalBody unambiguous.entries member isEntry)
  rw [ownedViews_outcome setting outcome unambiguous.namesakes]
  refine (((found_perm setting unambiguous.entries).map _).append_right _).trans ?_
  rw [foundViews]
  refine (wanted_perm rules.view (matching rules existing desired)).symm.trans (List.Perm.of_eq ?_)
  rw [← wanted, List.map_map, wanted]
  rfl

/-! ### A further reconciliation -/

omit [DecidableEq Kind] [DecidableEq View] in
/-- Where some entry has the name, the last entry with it is found. -/
theorem exists_byName
    {entries : List (Entry Body)}
    {wanted : Body}
    {entry : Entry Body}
    (member : entry ∈ entries)
    (named : rules.name (rules.entryView entry) = rules.name (rules.view wanted)) :
    Exists fun last => byName rules entries wanted = some last := by
  cases search : byName rules entries wanted with
  | none => exact absurd named (byName_eq_none.mp search entry member)
  | some last => exact ⟨last, rfl⟩

omit [DecidableEq Kind] [DecidableEq View] [DecidableEq Name] in
/-- Some owned entry looks like each wanted body. -/
theorem exists_owned_entry
    {entries : List (Entry Body)}
    (views : (ownedViews rules entries).Perm (desired.map rules.view))
    {wanted : Body}
    (isWanted : wanted ∈ desired) :
    Exists fun entry => entry ∈ entries ∧ rules.owned (rules.entryView entry) = true ∧
      rules.entryView entry = rules.view wanted := by
  have present := views.mem_iff.mpr (List.mem_map_of_mem isWanted)
  obtain ⟨entry, member, same⟩ := List.mem_map.mp present
  obtain ⟨isEntry, isOwned⟩ := List.mem_filter.mp member
  exact ⟨entry, isEntry, isOwned, same⟩

omit [DecidableEq Kind] [DecidableEq View] [DecidableEq Name] in
/-- Each owned entry looks like some wanted body. -/
theorem exists_wanted
    {entries : List (Entry Body)}
    (views : (ownedViews rules entries).Perm (desired.map rules.view))
    {entry : Entry Body}
    (member : entry ∈ entries)
    (isOwned : rules.owned (rules.entryView entry) = true) :
    Exists fun wanted => wanted ∈ desired ∧ rules.view wanted = rules.entryView entry := by
  have isView : rules.entryView entry ∈ ownedViews rules entries :=
    List.mem_map_of_mem (List.mem_filter.mpr ⟨member, isOwned⟩)
  exact List.mem_map.mp (views.mem_iff.mp isView)

omit [DecidableEq Kind] [DecidableEq View] in
/-- The last entry with a name is not in front of an entry with the name. -/
theorem mem_of_byName_append
    {front rest : List (Entry Body)}
    {current last : Entry Body}
    {wanted : Body}
    (named : rules.name (rules.entryView current) = rules.name (rules.view wanted))
    (isLast : byName rules (front ++ current :: rest) wanted = some last) :
    last ∈ current :: rest := by
  unfold byName at isLast
  rw [List.reverse_append, List.reverse_cons, List.append_assoc, List.find?_append] at isLast
  rcases Option.or_eq_some_iff.mp isLast with later | ⟨_, atCurrent⟩
  · exact List.mem_cons_of_mem _ (List.mem_reverse.mp (List.mem_of_find?_eq_some later))
  · rw [List.singleton_append, List.find?_cons_of_pos (by simpa using named)] at atCurrent
    injection atCurrent with same
    rw [← same]
    exact List.mem_cons_self

omit [DecidableEq View] in
/-- Kept entries keep their order. -/
theorem kept_split
    {before after : List (Entry Body)}
    {current entry : Entry Body}
    (split : existing = before ++ current :: after)
    (inBefore : entry ∈ before)
    (isKept : entry ∈ kept rules existing desired)
    (currentKept : current ∈ kept rules existing desired) :
    Exists fun front => Exists fun rest =>
      kept rules existing desired = front ++ current :: rest ∧ entry ∈ front := by
  unfold kept at isKept currentKept ⊢
  obtain ⟨_, entryKept⟩ := List.mem_filter.mp isKept
  obtain ⟨_, currentStays⟩ := List.mem_filter.mp currentKept
  clear isKept currentKept
  generalize foundIds rules existing desired = ids at entryKept currentStays ⊢
  subst split
  refine ⟨before.filter fun entry => ¬Stale rules desired ids entry,
    after.filter fun entry => ¬Stale rules desired ids entry, ?_,
    List.mem_filter.mpr ⟨inBefore, entryKept⟩⟩
  rw [List.filter_append, List.filter_cons, if_pos currentStays]

/-- After unambiguous matches, the last entry with a wanted name is owned. -/
theorem owned_of_byName_outcome
    (setting : Setting rules existing desired)
    (outcome : Outcome rules existing desired result created)
    (unambiguous : Unambiguous rules existing desired)
    {wanted : Body}
    (isWanted : wanted ∈ desired)
    {last : Entry Body}
    (isLast : byName rules result wanted = some last) :
    rules.owned (rules.entryView last) = true := by
  by_contra notOwned
  obtain ⟨named, _, _, splitResult, _⟩ := byName_eq_some isLast
  have member : last ∈ result := by
    rw [splitResult]
    simp
  rw [outcome.entries] at member
  rcases List.mem_append.mp member with fromKept | new
  · -- The entry was there at the start, and an entry found by this name follows it.
    obtain ⟨entry, isKept, rfl⟩ := List.mem_map.mp fromKept
    have entryMember := (List.mem_filter.mp isKept).1
    have notFound : entry.id ∉ foundIds rules existing desired := by
      intro isFound
      obtain ⟨made, madeMember, current, isEntry, sameId⟩ := mem_foundIds.mp isFound
      obtain rfl := entry_eq_of_id setting.ids (entry_mem madeMember isEntry) entryMember sameId
      exact notOwned (owned_finalBody setting madeMember isEntry)
    have namedBefore : rules.name (rules.entryView entry) = rules.name (rules.view wanted) := by
      rw [← named]
      unfold Rules.entryView finalEntry
      rw [finalBody_of_not_found notFound]
    obtain ⟨current, isNamed⟩ := exists_byName entryMember namedBefore
    obtain ⟨_, before, after, split, unnamedAfter⟩ := byName_eq_some isNamed
    have wantedMatch : Exists fun made =>
        made ∈ matching rules existing desired ∧ made.wanted = wanted := exists_match isWanted
    obtain ⟨made, madeMember, madeWanted⟩ := wantedMatch
    obtain ⟨_, isLookup, _⟩ := lookup_of_mem_matching madeMember
    rw [madeWanted, lookup_of_byName isNamed] at isLookup
    have currentMember := entry_mem madeMember isLookup
    have currentFound : current.id ∈ foundIds rules existing desired :=
      mem_foundIds.mpr ⟨made, madeMember, current, isLookup, rfl⟩
    have currentKept := found_mem_kept currentMember currentFound
    have inBefore : entry ∈ before := by
      rw [split] at entryMember
      rcases List.mem_append.mp entryMember with earlier | atOrAfter
      · exact earlier
      · rcases List.mem_cons.mp atOrAfter with rfl | later
        · exact absurd currentFound notFound
        · exact absurd namedBefore (unnamedAfter entry later)
    obtain ⟨front, rest, resultSplit, inFront⟩ :
        Exists fun front => Exists fun rest =>
          result = front ++ finalEntry rules (matching rules existing desired) current :: rest ∧
            finalEntry rules (matching rules existing desired) entry ∈ front := by
      obtain ⟨front, rest, keptSplit, inFront⟩ := kept_split split inBefore isKept currentKept
      refine ⟨front.map (finalEntry rules (matching rules existing desired)),
        rest.map (finalEntry rules (matching rules existing desired)) ++ created, ?_,
        List.mem_map_of_mem inFront⟩
      rw [outcome.entries, keptSplit, List.map_append, List.map_cons, List.append_assoc,
        List.cons_append]
    have namedCurrent : rules.name (rules.entryView
        (finalEntry rules (matching rules existing desired) current)) =
          rules.name (rules.view wanted) := by
      rw [← madeWanted, ← view_finalBody unambiguous.entries madeMember isLookup]
      rfl
    have inRest : finalEntry rules (matching rules existing desired) entry ∈
        finalEntry rules (matching rules existing desired) current :: rest :=
      mem_of_byName_append namedCurrent (resultSplit ▸ isLast)
    have apart := outcome.ids
    rw [resultSplit, List.map_append] at apart
    exact (List.nodup_append.mp apart).2.2 _ (List.mem_map_of_mem inFront) _
      (List.mem_map_of_mem inRest) rfl
  · exact notOwned (created_owned setting outcome new)

/-- After unambiguous matches, a further reconciliation would change nothing. -/
theorem idle_outcome
    (setting : Setting rules existing desired)
    (outcome : Outcome rules existing desired result created)
    (unambiguous : Unambiguous rules existing desired) :
    Idle rules result desired := by
  have views := ownedViews_perm setting outcome unambiguous
  constructor
  · intro made madeMember
    have isWanted := wanted_mem madeMember
    obtain ⟨entry, member, _, same⟩ := exists_owned_entry views isWanted
    obtain ⟨last, isLast⟩ := exists_byName member (congrArg rules.name same)
    obtain ⟨_, isLookup, _⟩ := lookup_of_mem_matching madeMember
    refine ⟨last, isLookup.trans (lookup_of_byName isLast), ?_⟩
    -- The last entry with the name looks like some wanted body, which has its name.
    have lastOwned := owned_of_byName_outcome setting outcome unambiguous isWanted isLast
    obtain ⟨named, before, after, split, _⟩ := byName_eq_some isLast
    have lastMember : last ∈ result := by
      rw [split]
      simp
    obtain ⟨other, isOther, otherView⟩ := exists_wanted views lastMember lastOwned
    rw [← otherView] at named ⊢
    rw [wanted_eq_of_name unambiguous.names isOther isWanted named]
  · rintro entry member ⟨isOwned, unwanted, _⟩
    obtain ⟨wanted, isWanted, same⟩ := exists_wanted views member isOwned
    rw [← same] at unwanted
    exact unwanted (name_mem_wantedNames isWanted)

/-! ### What convergence needs -/

omit [DecidableEq Kind] [DecidableEq View] [DecidableEq Name] in
/-- Wanted bodies whose names tell their views have distinct names. -/
theorem names_nodup
    (views : (desired.map rules.view).Nodup)
    (telling : forall left, left ∈ desired -> forall right, right ∈ desired ->
      rules.name (rules.view left) = rules.name (rules.view right) ->
        rules.view left = rules.view right) :
    (wantedNames rules desired).Nodup := by
  rw [wantedNames, List.Nodup, List.pairwise_map]
  rw [List.Nodup, List.pairwise_map] at views
  refine views.imp_of_mem fun leftMember rightMember differs sameName => ?_
  exact differs (telling _ leftMember _ rightMember sameName)

omit [DecidableEq View] in
/-- Wanted bodies of one name would be matched to one entry again and again. -/
theorem names_of_converged
    (setting : Setting rules existing desired)
    (converged : Converged rules result desired) :
    (wantedNames rules desired).Nodup := by
  have viewOf : forall wanted, wanted ∈ desired ->
      Exists fun last => byName rules result wanted = some last ∧
        rules.entryView last = rules.view wanted := by
    intro wanted isWanted
    have wantedMatch : Exists fun made =>
        made ∈ matching rules result desired ∧ made.wanted = wanted := exists_match isWanted
    obtain ⟨made, madeMember, rfl⟩ := wantedMatch
    obtain ⟨settled, isSettled, same⟩ := converged.idle.settled made madeMember
    obtain ⟨entry, member, _, sameView⟩ := exists_owned_entry converged.views isWanted
    obtain ⟨last, isLast⟩ := exists_byName member (congrArg rules.name sameView)
    obtain ⟨_, isLookup, _⟩ := lookup_of_mem_matching madeMember
    rw [lookup_of_byName isLast, isSettled] at isLookup
    injection isLookup with sameEntry
    exact ⟨last, isLast, sameEntry ▸ same⟩
  refine names_nodup setting.views fun left isLeft right isRight sameName => ?_
  obtain ⟨leftLast, leftFound, leftView⟩ := viewOf left isLeft
  obtain ⟨rightLast, rightFound, rightView⟩ := viewOf right isRight
  rw [byName_congr sameName, rightFound] at leftFound
  injection leftFound with sameLast
  rw [← leftView, ← rightView, sameLast]

omit [DecidableEq View] [DecidableEq Name] [DecidableEq Kind] in
/-- What stands in front of an element of a list without repetitions. -/
theorem front_eq_of_nodup
    {before after front rest : List (Entry Body)}
    {current : Entry Body}
    (apart : (before ++ current :: after).Nodup)
    (same : before ++ current :: after = front ++ current :: rest) :
    before = front := by
  have notBefore : current ∉ before := fun inBefore =>
    (List.nodup_append.mp apart).2.2 current inBefore current List.mem_cons_self rfl
  have notAfter : current ∉ after := (List.nodup_cons.mp (List.nodup_append.mp apart).2.1).1
  exact ((List.append_cons_inj_of_notMem notBefore notAfter).mp same).1

/-- An owned namesake that is not matched would stay beside its wanted body, or the
body would be missing. -/
theorem namesakes_of_views
    (setting : Setting rules existing desired)
    (outcome : Outcome rules existing desired result created)
    (names : (wantedNames rules desired).Nodup)
    (views : (ownedViews rules result).Perm (desired.map rules.view))
    {namesake : Entry Body}
    (member : namesake ∈ existing)
    (isOwned : rules.owned (rules.entryView namesake) = true)
    (isWanted : rules.name (rules.entryView namesake) ∈ wantedNames rules desired) :
    namesake.id ∈ foundIds rules existing desired := by
  by_contra notFound
  have inResult : forall {entry : Entry Body}, entry ∈ kept rules existing desired ->
      finalEntry rules (matching rules existing desired) entry ∈ result := by
    intro entry isKept
    rw [outcome.entries]
    exact List.mem_append_left _ (List.mem_map_of_mem isKept)
  have stays : rules.entryView (finalEntry rules (matching rules existing desired) namesake) =
      rules.entryView namesake :=
    congrArg rules.view (finalBody_of_not_found notFound)
  have namesakeKept : namesake ∈ kept rules existing desired :=
    List.mem_filter.mpr ⟨member, by simp [Stale, isWanted]⟩
  -- The namesake looks like the wanted body of its name.
  obtain ⟨wanted, wantedMember, wantedName⟩ := List.mem_map.mp isWanted
  have sameView : rules.view wanted = rules.entryView namesake := by
    obtain ⟨other, otherMember, otherView⟩ :=
      exists_wanted views (inResult namesakeKept) (stays.symm ▸ isOwned)
    rw [stays] at otherView
    have sameName : rules.name (rules.view other) = rules.name (rules.view wanted) :=
      (congrArg rules.name otherView).trans wantedName.symm
    rw [← wanted_eq_of_name names otherMember wantedMember sameName, otherView]
  -- The body is matched to another entry of its name, which must end up different.
  obtain ⟨current, isNamed⟩ := exists_byName member wantedName.symm
  obtain ⟨currentName, before, after, split, unnamedAfter⟩ := byName_eq_some isNamed
  have wantedMatch : Exists fun made =>
      made ∈ matching rules existing desired ∧ made.wanted = wanted := exists_match wantedMember
  obtain ⟨made, madeMember, madeWanted⟩ := wantedMatch
  obtain ⟨_, isLookup, _⟩ := lookup_of_mem_matching madeMember
  rw [madeWanted, lookup_of_byName isNamed] at isLookup
  have currentMember := entry_mem madeMember isLookup
  have currentFound : current.id ∈ foundIds rules existing desired :=
    mem_foundIds.mpr ⟨made, madeMember, current, isLookup, rfl⟩
  have endsDifferent : rules.view (finalBody rules (matching rules existing desired) current) ≠
      rules.view wanted := by
    intro same
    have apart : (ownedViews rules result).Nodup := views.nodup_iff.mpr setting.views
    have currentResult := inResult (found_mem_kept currentMember currentFound)
    have sameEntry := List.inj_on_of_nodup_map apart
      (List.mem_filter.mpr ⟨currentResult, owned_finalBody setting madeMember isLookup⟩)
      (List.mem_filter.mpr ⟨inResult namesakeKept, stays.symm ▸ isOwned⟩)
      (same.trans (sameView.trans stays.symm))
    have sameId : current.id = namesake.id := by
      unfold finalEntry at sameEntry
      injection sameEntry
    exact notFound (sameId ▸ currentFound)
  rcases finalBody_cases rules (matching rules existing desired) current with
    ⟨own, notOverwritten⟩ | ⟨earlier, last, later, order, overwrites, settled, body⟩
  · rw [own] at endsDifferent
    refine notOverwritten made madeMember ⟨current, isLookup, rfl, ?_⟩
    rw [madeWanted]
    exact endsDifferent
  · have lastMember : last ∈ matching rules existing desired := by
      rw [order]
      simp
    obtain ⟨again, isAgain, sameId, _⟩ := overwrites
    obtain rfl := entry_eq_of_id setting.ids (entry_mem lastMember isAgain) currentMember sameId
    have otherBody : last.wanted ≠ wanted := by
      rintro rfl
      exact endsDifferent (congrArg rules.view body)
    have notByName : byName rules existing last.wanted ≠ some again := by
      intro lastNamed
      refine otherBody (wanted_eq_of_name names (wanted_mem lastMember) wantedMember ?_)
      rw [← (byName_eq_some lastNamed).1, currentName]
    by_cases same : rules.entryView again = rules.view wanted
    · -- The last overwrite found the entry by its kind, past the namesake.
      obtain ⟨inUse, lastLookup, fromFound⟩ := lookup_of_mem_matching lastMember
      rcases lookup_eq_some (lastLookup.symm.trans isAgain) with named | ⟨_, ofKind⟩
      · exact notByName named
      · obtain ⟨_, sameKind, _, front, rest, kindSplit, inUseBefore⟩ := byKind_eq_some ofKind
        refine notFound (fromFound _ (inUseBefore namesake ?_ isOwned ?_))
        · have apart : existing.Nodup := List.Nodup.of_map Entry.id setting.ids
          have sameFront : before = front :=
            front_eq_of_nodup (split ▸ apart) (split.symm.trans kindSplit)
          rw [← sameFront]
          rw [split] at member
          rcases List.mem_append.mp member with inBefore | atOrAfter
          · exact inBefore
          · rcases List.mem_cons.mp atOrAfter with rfl | inAfter
            · exact absurd currentFound notFound
            · exact absurd wantedName.symm (unnamedAfter namesake inAfter)
        · rw [← sameKind, same, sameView]
    · -- The match of the wanted body overwrites the entry, so the last overwrite is later.
      have madeOverwrites : made.Overwrites rules again :=
        ⟨again, isLookup, rfl, by rw [madeWanted]; exact same⟩
      have madeEarlier : made ∈ earlier := by
        rw [order] at madeMember
        rcases List.mem_append.mp madeMember with inEarlier | atOrLater
        · exact inEarlier
        · rcases List.mem_cons.mp atOrLater with rfl | inLater
          · exact absurd madeWanted otherBody
          · exact absurd madeOverwrites (settled made inLater)
      have ordered := matching_pairwise rules existing desired
      rw [order, List.pairwise_append] at ordered
      exact notByName (ordered.2.2 made madeEarlier last List.mem_cons_self again again
        isLookup isAgain rfl)

/-- Two bodies matched to one entry would leave fewer entries than bodies. -/
theorem entries_of_views
    (setting : Setting rules existing desired)
    (outcome : Outcome rules existing desired result created)
    (namesakes : forall entry, entry ∈ existing -> rules.owned (rules.entryView entry) = true ->
      rules.name (rules.entryView entry) ∈ wantedNames rules desired ->
        entry.id ∈ foundIds rules existing desired)
    (views : (ownedViews rules result).Perm (desired.map rules.view)) :
    (foundIds rules existing desired).Nodup := by
  have wanted : (matching rules existing desired).map Match.wanted = desired := matchAll_wanted []
  have idsPerm : ((existing.filter fun entry => entry.id ∈ foundIds rules existing desired).map
      Entry.id).Perm (foundIds rules existing desired).dedup := by
    have apart : ((existing.filter fun entry =>
        entry.id ∈ foundIds rules existing desired).map Entry.id).Nodup :=
      setting.ids.sublist (List.filter_sublist.map Entry.id)
    refine (List.perm_ext_iff_of_nodup apart (List.nodup_dedup _)).mpr fun id => ?_
    simp only [List.mem_map, List.mem_filter, decide_eq_true_eq, List.mem_dedup]
    constructor
    · rintro ⟨entry, ⟨_, isFound⟩, rfl⟩
      exact isFound
    · intro isFound
      obtain ⟨made, madeMember, entry, isEntry, rfl⟩ := mem_foundIds.mp isFound
      exact ⟨entry, ⟨entry_mem madeMember isEntry, isFound⟩, rfl⟩
  have counts := views.length_eq
  have matchCounts := (wanted_perm rules.view (matching rules existing desired)).length_eq
  have foundCount : ((matching rules existing desired).filterMap fun made =>
        made.entry.map fun _ => rules.view made.wanted).length =
      (foundIds rules existing desired).length := by
    rw [foundIds, found, List.length_map, List.length_filterMap_eq_countP,
      List.length_filterMap_eq_countP]
    simp
  have idsCount := idsPerm.length_eq
  have wantedCount := congrArg List.length wanted
  rw [ownedViews_outcome setting outcome namesakes] at counts
  simp only [List.length_append, List.length_map] at counts matchCounts idsCount wantedCount
  have sameLength : (foundIds rules existing desired).dedup.length =
      (foundIds rules existing desired).length := by
    omega
  rw [← (List.dedup_sublist _).eq_of_length sameLength]
  exact List.nodup_dedup _

/-- A reconciliation converges exactly when the matches were unambiguous. -/
theorem converged_iff_unambiguous
    (setting : Setting rules existing desired)
    (outcome : Outcome rules existing desired result created) :
    Converged rules result desired ↔ Unambiguous rules existing desired := by
  constructor
  · intro converged
    have names := names_of_converged setting converged
    have namesakes : forall entry, entry ∈ existing ->
        rules.owned (rules.entryView entry) = true ->
          rules.name (rules.entryView entry) ∈ wantedNames rules desired ->
            entry.id ∈ foundIds rules existing desired :=
      fun _ member isOwned isWanted =>
        namesakes_of_views setting outcome names converged.views member isOwned isWanted
    exact ⟨names, entries_of_views setting outcome namesakes converged.views, namesakes⟩
  · intro unambiguous
    exact ⟨ownedViews_perm setting outcome unambiguous,
      idle_outcome setting outcome unambiguous⟩

/-- An entry that is not owned and whose name is not wanted stays as it is. -/
theorem mem_of_unowned
    (outcome : Outcome rules existing desired result created)
    {entry : Entry Body}
    (ids : (existing.map Entry.id).Nodup)
    (member : entry ∈ existing)
    (notOwned : rules.owned (rules.entryView entry) = false)
    (unwanted : rules.name (rules.entryView entry) ∉ wantedNames rules desired) :
    entry ∈ result := by
  have notFound : entry.id ∉ foundIds rules existing desired := by
    intro isFound
    obtain ⟨made, madeMember, current, isEntry, sameId⟩ := mem_foundIds.mp isFound
    obtain rfl := entry_eq_of_id ids (entry_mem madeMember isEntry) member sameId
    obtain ⟨_, isLookup, _⟩ := lookup_of_mem_matching madeMember
    rcases lookup_eq_some (isLookup.symm.trans isEntry) with named | ⟨_, ofKind⟩
    · rw [(byName_eq_some named).1] at unwanted
      exact unwanted (name_mem_wantedNames (wanted_mem madeMember))
    · rw [(byKind_eq_some ofKind).1] at notOwned
      exact Bool.noConfusion notOwned
  have isKept : entry ∈ kept rules existing desired :=
    List.mem_filter.mpr ⟨member, by simp [Stale, notOwned]⟩
  have same : finalEntry rules (matching rules existing desired) entry = entry := by
    unfold finalEntry
    rw [finalBody_of_not_found notFound]
  rw [outcome.entries, ← same]
  exact List.mem_append_left _ (List.mem_map_of_mem isKept)

end Outcomes

end Reconcile
end Library
end LakehouseOps
