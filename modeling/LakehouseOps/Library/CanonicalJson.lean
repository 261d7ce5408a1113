import LakehouseOps.Library.JsonText

/-!
# Canonical JSON

The entries of an object are in some order, which two documents may differ in. Sorting
them by key makes the document canonical. `json.dumps` with sorted keys is the text of the
canonical document.
-/

namespace LakehouseOps
namespace Library

/-! ## Entries -/

section Entries

variable {Value Other : Type}

/-- The entries in the order of their keys. -/
def sortEntries (entries : List (Text × Value)) : List (Text × Value) :=
  entries.insertionSort fun left right => left.1 ≤ right.1

/-- A dictionary built from the entries: each key stands where it was first, with the
value it had last. -/
def dictOf : List (Text × Value) -> List (Text × Value)
  | [] => []
  | (key, value) :: entries =>
      (key, ((dictOf entries).lookup key).getD value) ::
        (dictOf entries).filter fun entry => entry.1 ≠ key

theorem sortEntries_perm (entries : List (Text × Value)) :
    (sortEntries entries).Perm entries :=
  List.perm_insertionSort _ entries

theorem sortEntries_sorted (entries : List (Text × Value)) :
    (sortEntries entries).Pairwise fun left right => left.1 ≤ right.1 := by
  have total : Std.Total fun left right : Text × Value => left.1 ≤ right.1 :=
    ⟨fun left right => le_total left.1 right.1⟩
  have trans : IsTrans (Text × Value) fun left right => left.1 ≤ right.1 :=
    ⟨fun _ _ _ first second => le_trans first second⟩
  exact List.pairwise_insertionSort _ entries

/-- With distinct keys an entry is the only one with its key. -/
theorem entry_unique
    {entries : List (Text × Value)}
    (distinct : (entries.map Prod.fst).Nodup)
    {left right : Text × Value}
    (isLeft : left ∈ entries)
    (isRight : right ∈ entries)
    (sameKey : left.1 = right.1) :
    left = right :=
  List.inj_on_of_nodup_map distinct isLeft isRight sameKey

/-- The order of the entries before they are sorted makes no difference. -/
theorem sortEntries_eq_of_perm
    {left right : List (Text × Value)}
    (distinct : (left.map Prod.fst).Nodup)
    (permuted : left.Perm right) :
    sortEntries left = sortEntries right := by
  have sorted : (sortEntries left).Perm (sortEntries right) :=
    (sortEntries_perm left).trans (permuted.trans (sortEntries_perm right).symm)
  refine List.Perm.eq_of_pairwise ?_ (sortEntries_sorted left) (sortEntries_sorted right) sorted
  intro first second isFirst isSecond notAfter notBefore
  exact entry_unique distinct ((sortEntries_perm left).mem_iff.mp isFirst)
    (permuted.mem_iff.mpr ((sortEntries_perm right).mem_iff.mp isSecond))
    (le_antisymm notAfter notBefore)

theorem keys_sortEntries_nodup
    {entries : List (Text × Value)}
    (distinct : (entries.map Prod.fst).Nodup) :
    ((sortEntries entries).map Prod.fst).Nodup :=
  ((sortEntries_perm entries).map Prod.fst).nodup_iff.mpr distinct

theorem lookup_eq_some_iff_mem
    {entries : List (Text × Value)}
    (distinct : (entries.map Prod.fst).Nodup)
    {key : Text}
    {value : Value} :
    entries.lookup key = some value ↔ (key, value) ∈ entries := by
  constructor
  · intro found
    obtain ⟨before, after, same, _⟩ := List.lookup_eq_some_iff.mp found
    rw [same]
    exact List.mem_append_right _ List.mem_cons_self
  · intro member
    cases found : entries.lookup key with
    | none =>
        have absent := List.lookup_eq_none_iff.mp found (key, value) member
        simp at absent
    | some other =>
        obtain ⟨before, after, same, _⟩ := List.lookup_eq_some_iff.mp found
        have isOther : (key, other) ∈ entries := by
          rw [same]
          exact List.mem_append_right _ List.mem_cons_self
        rw [(Prod.mk.inj (entry_unique distinct isOther member rfl)).2]

theorem lookup_eq_of_perm
    {left right : List (Text × Value)}
    (distinct : (left.map Prod.fst).Nodup)
    (permuted : left.Perm right)
    (key : Text) :
    left.lookup key = right.lookup key := by
  apply Option.ext
  intro value
  rw [lookup_eq_some_iff_mem distinct, permuted.mem_iff,
    ← lookup_eq_some_iff_mem ((permuted.map Prod.fst).nodup_iff.mp distinct)]

theorem lookup_map_snd
    (transform : Value -> Other)
    (entries : List (Text × Value))
    (key : Text) :
    (entries.map fun entry => (entry.1, transform entry.2)).lookup key =
      (entries.lookup key).map transform := by
  induction entries with
  | nil => rfl
  | cons entry entries inductionHypothesis =>
      rw [List.map_cons, List.lookup_cons, List.lookup_cons]
      cases key == entry.1 with
      | true => rfl
      | false => exact inductionHypothesis

theorem keys_map_snd
    (transform : Value -> Other)
    (entries : List (Text × Value)) :
    (entries.map fun entry => (entry.1, transform entry.2)).map Prod.fst =
      entries.map Prod.fst := by
  rw [List.map_map]
  rfl

theorem dictOf_eq_self
    {entries : List (Text × Value)}
    (distinct : (entries.map Prod.fst).Nodup) :
    dictOf entries = entries := by
  induction entries with
  | nil => rfl
  | cons entry entries inductionHypothesis =>
      obtain ⟨key, value⟩ := entry
      obtain ⟨absent, restDistinct⟩ := List.nodup_cons.mp distinct
      have noKey : forall entry, entry ∈ entries -> entry.1 ≠ key :=
        fun entry member same => absent (List.mem_map.mpr ⟨entry, member, same⟩)
      have notFound : entries.lookup key = none :=
        List.lookup_eq_none_iff.mpr fun entry member => by simpa using (noKey entry member).symm
      rw [dictOf, inductionHypothesis restDistinct, notFound, Option.getD_none,
        List.filter_eq_self.mpr fun entry member => decide_eq_true (noKey entry member)]

theorem mem_of_lookup
    {entries : List (Text × Value)}
    {key : Text}
    {value : Value}
    (found : entries.lookup key = some value) :
    (key, value) ∈ entries := by
  obtain ⟨before, after, same, _⟩ := List.lookup_eq_some_iff.mp found
  rw [same]
  exact List.mem_append_right _ List.mem_cons_self

/-- An entry of a dictionary is one of those it is built from. -/
theorem mem_of_mem_dictOf
    {entries : List (Text × Value)}
    {entry : Text × Value}
    (member : entry ∈ dictOf entries) :
    entry ∈ entries := by
  induction entries generalizing entry with
  | nil => exact member
  | cons first entries inductionHypothesis =>
      obtain ⟨key, value⟩ := first
      rw [dictOf] at member
      rcases List.mem_cons.mp member with rfl | later
      · cases found : (dictOf entries).lookup key with
        | none => exact List.mem_cons_self
        | some last =>
            exact List.mem_cons_of_mem _ (inductionHypothesis (mem_of_lookup found))
      · exact List.mem_cons_of_mem _ (inductionHypothesis (List.mem_filter.mp later).1)

theorem keys_dictOf_nodup (entries : List (Text × Value)) :
    ((dictOf entries).map Prod.fst).Nodup := by
  induction entries with
  | nil => exact List.nodup_nil
  | cons first entries inductionHypothesis =>
      obtain ⟨key, value⟩ := first
      rw [dictOf, List.map_cons, List.nodup_cons]
      refine ⟨?_, inductionHypothesis.sublist ((List.filter_sublist).map Prod.fst)⟩
      intro member
      obtain ⟨entry, isEntry, same⟩ := List.mem_map.mp member
      exact of_decide_eq_true (List.mem_filter.mp isEntry).2 same

/-- A dictionary has the keys of the entries it is built from. -/
theorem mem_keys_dictOf {entries : List (Text × Value)} {key : Text} :
    key ∈ (dictOf entries).map Prod.fst ↔ key ∈ entries.map Prod.fst := by
  induction entries with
  | nil => rfl
  | cons first entries inductionHypothesis =>
      obtain ⟨other, value⟩ := first
      have kept : key ∈ ((dictOf entries).filter fun entry => entry.1 ≠ other).map Prod.fst ↔
          key ∈ entries.map Prod.fst ∧ key ≠ other := by
        rw [← inductionHypothesis]
        simp only [List.mem_map, List.mem_filter, decide_eq_true_eq]
        constructor
        · rintro ⟨entry, ⟨isEntry, differs⟩, rfl⟩
          exact ⟨⟨entry, isEntry, rfl⟩, differs⟩
        · rintro ⟨⟨entry, isEntry, rfl⟩, differs⟩
          exact ⟨entry, ⟨isEntry, differs⟩, rfl⟩
      rw [dictOf, List.map_cons, List.map_cons, List.mem_cons, List.mem_cons, kept]
      by_cases same : key = other <;> simp [same]

end Entries

/-! ## Documents -/

namespace Document

variable {Double : Type} {floats : FloatFormat Double}

/-- Every object of the document has each key once. -/
inductive WellFormed : Document Double -> Prop
  | null : WellFormed .null
  | bool (value : Bool) : WellFormed (.bool value)
  | int (value : Int) : WellFormed (.int value)
  | float (value : Double) : WellFormed (.float value)
  | string (value : Text) : WellFormed (.string value)
  | array {values : List (Document Double)}
      (each : forall value, value ∈ values -> WellFormed value) :
      WellFormed (.array values)
  | object {entries : List (Text × Document Double)}
      (distinct : (entries.map Prod.fst).Nodup)
      (each : forall entry, entry ∈ entries -> WellFormed entry.2) :
      WellFormed (.object entries)

mutual

/-- The document with the entries of every object in the order of their keys. -/
def canonical : Document Double -> Document Double
  | .null => .null
  | .bool value => .bool value
  | .int value => .int value
  | .float value => .float value
  | .string value => .string value
  | .array values => .array (canonicalValues values)
  | .object entries => .object (sortEntries (canonicalEntries entries))

def canonicalValues : List (Document Double) -> List (Document Double)
  | [] => []
  | value :: values => canonical value :: canonicalValues values

def canonicalEntries : List (Text × Document Double) -> List (Text × Document Double)
  | [] => []
  | (key, value) :: entries => (key, canonical value) :: canonicalEntries entries

end

mutual

/-- The document that a text loads to: an object has the last value of each key. -/
def uniqueKeys : Document Double -> Document Double
  | .null => .null
  | .bool value => .bool value
  | .int value => .int value
  | .float value => .float value
  | .string value => .string value
  | .array values => .array (uniqueValues values)
  | .object entries => .object (dictOf (uniqueEntries entries))

def uniqueValues : List (Document Double) -> List (Document Double)
  | [] => []
  | value :: values => uniqueKeys value :: uniqueValues values

def uniqueEntries : List (Text × Document Double) -> List (Text × Document Double)
  | [] => []
  | (key, value) :: entries => (key, uniqueKeys value) :: uniqueEntries entries

end

theorem canonicalValues_eq (values : List (Document Double)) :
    canonicalValues values = values.map canonical := by
  induction values with
  | nil => rfl
  | cons value values inductionHypothesis =>
      rw [canonicalValues, inductionHypothesis, List.map_cons]

theorem canonicalEntries_eq (entries : List (Text × Document Double)) :
    canonicalEntries entries = entries.map fun entry => (entry.1, canonical entry.2) := by
  induction entries with
  | nil => rfl
  | cons entry entries inductionHypothesis =>
      rw [canonicalEntries, inductionHypothesis, List.map_cons]

theorem canonical_array (values : List (Document Double)) :
    canonical (.array values) = .array (values.map canonical) := by
  rw [canonical, canonicalValues_eq]

/-- The entries of a canonical object. -/
def canonicalFields (entries : List (Text × Document Double)) : List (Text × Document Double) :=
  sortEntries (entries.map fun entry => (entry.1, canonical entry.2))

theorem canonical_object (entries : List (Text × Document Double)) :
    canonical (.object entries) = .object (canonicalFields entries) := by
  rw [canonical, canonicalEntries_eq, canonicalFields]

theorem uniqueValues_eq (values : List (Document Double)) :
    uniqueValues values = values.map uniqueKeys := by
  induction values with
  | nil => rfl
  | cons value values inductionHypothesis =>
      rw [uniqueValues, inductionHypothesis, List.map_cons]

theorem uniqueEntries_eq (entries : List (Text × Document Double)) :
    uniqueEntries entries = entries.map fun entry => (entry.1, uniqueKeys entry.2) := by
  induction entries with
  | nil => rfl
  | cons entry entries inductionHypothesis =>
      rw [uniqueEntries, inductionHypothesis, List.map_cons]

/-- A document that has each key once is loaded as it stands. -/
theorem uniqueKeys_eq_self
    {document : Document Double}
    (wellFormed : WellFormed document) :
    uniqueKeys document = document := by
  induction wellFormed with
  | null => rfl
  | bool value => rfl
  | int value => rfl
  | float value => rfl
  | string value => rfl
  | array each inductionHypothesis =>
      rw [uniqueKeys, uniqueValues_eq, List.map_congr_left inductionHypothesis, List.map_id']
  | object distinct each inductionHypothesis =>
      have same : forall entry, entry ∈ _ -> (entry.1, uniqueKeys entry.2) = entry :=
        fun entry member => Prod.ext rfl (inductionHypothesis entry member)
      rw [uniqueKeys, uniqueEntries_eq, List.map_congr_left same, List.map_id',
        dictOf_eq_self distinct]

theorem wellFormed_canonical
    {document : Document Double}
    (wellFormed : WellFormed document) :
    WellFormed (canonical document) := by
  induction wellFormed with
  | null => exact .null
  | bool value => exact .bool value
  | int value => exact .int value
  | float value => exact .float value
  | string value => exact .string value
  | array each inductionHypothesis =>
      rw [canonical_array]
      refine .array fun value member => ?_
      obtain ⟨original, isOriginal, rfl⟩ := List.mem_map.mp member
      exact inductionHypothesis original isOriginal
  | object distinct each inductionHypothesis =>
      rw [canonical_object, canonicalFields]
      refine .object (keys_sortEntries_nodup (by rwa [keys_map_snd])) fun entry member => ?_
      obtain ⟨original, isOriginal, rfl⟩ :=
        List.mem_map.mp ((sortEntries_perm _).mem_iff.mp member)
      exact inductionHypothesis original isOriginal

/-- A canonical document is its own canonical form. -/
theorem canonical_canonical
    {document : Document Double}
    (wellFormed : WellFormed document) :
    canonical (canonical document) = canonical document := by
  induction wellFormed with
  | null => rfl
  | bool value => rfl
  | int value => rfl
  | float value => rfl
  | string value => rfl
  | array each inductionHypothesis =>
      rw [canonical_array, canonical_array, List.map_map]
      exact congrArg Document.array (List.map_congr_left inductionHypothesis)
  | @object entries distinct each inductionHypothesis =>
      have twice : forall entry, entry ∈ entries ->
          (entry.1, canonical (canonical entry.2)) = (entry.1, canonical entry.2) :=
        fun entry member => Prod.ext rfl (inductionHypothesis entry member)
      have permuted : ((sortEntries (entries.map fun entry => (entry.1, canonical entry.2))).map
          fun entry => (entry.1, canonical entry.2)).Perm
            (entries.map fun entry => (entry.1, canonical entry.2)) := by
        have sorted := (sortEntries_perm (entries.map fun entry =>
          (entry.1, canonical entry.2))).map fun entry => (entry.1, canonical entry.2)
        rw [List.map_map] at sorted
        exact sorted.trans (by rw [← List.map_congr_left twice]; rfl)
      rw [canonical_object, canonical_object, canonicalFields, canonicalFields]
      exact congrArg Document.object
        (sortEntries_eq_of_perm (by rwa [keys_map_snd]) permuted.symm).symm

/-- `json.dumps(document, ensure_ascii=False, sort_keys=True, separators=(",", ":"))` -/
def dumps (floats : FloatFormat Double) (document : Document Double) : Text :=
  write floats (canonical document)

/-- `json.loads(points)` -/
def loads (floats : FloatFormat Double) (points : Text) : Option (Document Double) :=
  (readValue floats points.length (skipSpace points)).bind fun value =>
    if skipSpace value.2 = [] then some (uniqueKeys value.1) else none

/-- A dumped document is loaded back in its canonical form. -/
theorem loads_dumps
    (lawful : floats.Lawful)
    {document : Document Double}
    (wellFormed : WellFormed document) :
    loads floats (dumps floats document) = some (canonical document) := by
  have back := readsBack lawful (canonical document) _ [] ends_nil (Nat.le_refl _)
  have noSpace := skipSpace_write lawful (canonical document) []
  rw [List.append_nil] at back noSpace
  rw [loads, dumps, noSpace, back, Option.bind_some]
  change some (uniqueKeys (canonical document)) = some (canonical document)
  rw [uniqueKeys_eq_self (wellFormed_canonical wellFormed)]

/-- A dumped object with space after it is loaded back in its canonical form. -/
theorem loads_dumps_object
    (lawful : floats.Lawful)
    {entries : List (Text × Document Double)}
    (wellFormed : WellFormed (.object entries))
    {rest : Text}
    (isSpace : skipSpace rest = []) :
    loads floats (dumps floats (.object entries) ++ rest) = some (canonical (.object entries)) := by
  have eachBack : forall entry, entry ∈ sortEntries (canonicalEntries entries) ->
      ReadsBack floats entry.2 := fun entry _ => readsBack lawful entry.2
  have back : readValue floats (dumps floats (.object entries) ++ rest).length
      (dumps floats (.object entries) ++ rest) = some (canonical (.object entries), rest) := by
    refine readValue_write_object lawful eachBack ?_ rest
    rw [List.length_append]
    exact Nat.le_add_right _ _
  have noSpace : skipSpace (dumps floats (.object entries) ++ rest) =
      dumps floats (.object entries) ++ rest := skipSpace_write lawful _ rest
  rw [loads, noSpace, back, Option.bind_some]
  dsimp only
  rw [if_pos isSpace, uniqueKeys_eq_self (wellFormed_canonical wellFormed)]

/-- Documents with the same text are the same up to the order of entries. -/
theorem canonical_eq_of_dumps_eq
    (lawful : floats.Lawful)
    {left right : Document Double}
    (same : dumps floats left = dumps floats right) :
    canonical left = canonical right := by
  have leftBack := readsBack lawful (canonical left) _ [] ends_nil (Nat.le_refl _)
  have rightBack := readsBack lawful (canonical right) _ [] ends_nil (Nat.le_refl _)
  unfold dumps at same
  rw [same, rightBack] at leftBack
  exact (Prod.mk.inj (Option.some.inj leftBack)).1.symm

/-- An object has each field in its canonical form. -/
theorem lookup_canonicalFields
    {entries : List (Text × Document Double)}
    (distinct : (entries.map Prod.fst).Nodup)
    (key : Text) :
    (canonicalFields entries).lookup key = (entries.lookup key).map canonical := by
  rw [← lookup_map_snd, canonicalFields,
    lookup_eq_of_perm (keys_sortEntries_nodup (by rwa [keys_map_snd])) (sortEntries_perm _)]

/-- Objects with the same canonical form have the same fields, up to the order of entries. -/
theorem canonical_field_eq
    {left right : List (Text × Document Double)}
    (leftDistinct : (left.map Prod.fst).Nodup)
    (rightDistinct : (right.map Prod.fst).Nodup)
    (same : canonical (.object left) = canonical (.object right))
    (key : Text) :
    (left.lookup key).map canonical = (right.lookup key).map canonical := by
  rw [canonical_object, canonical_object] at same
  rw [← lookup_canonicalFields leftDistinct, ← lookup_canonicalFields rightDistinct,
    Document.object.inj same]

/-- A document in an object has each key once if the object has. -/
theorem WellFormed.of_lookup
    {entries : List (Text × Document Double)}
    (wellFormed : WellFormed (.object entries))
    {key : Text}
    {value : Document Double}
    (found : entries.lookup key = some value) :
    WellFormed value := by
  cases wellFormed with
  | object distinct each => exact each _ ((lookup_eq_some_iff_mem distinct).mp found)

theorem WellFormed.distinct
    {entries : List (Text × Document Double)}
    (wellFormed : WellFormed (.object entries)) :
    (entries.map Prod.fst).Nodup := by
  cases wellFormed with
  | object distinct each => exact distinct

/-- Leaving out entries by their keys commutes with making an object canonical. -/
theorem canonical_filter_canonicalFields
    {entries : List (Text × Document Double)}
    (wellFormed : WellFormed (.object entries))
    (keeps : Text -> Bool) :
    canonical (.object ((canonicalFields entries).filter fun entry => keeps entry.1)) =
      canonical (.object (entries.filter fun entry => keeps entry.1)) := by
  cases wellFormed with
  | object distinct each =>
      have twice : forall entry, entry ∈ entries.filter (fun entry => keeps entry.1) ->
          (entry.1, canonical (canonical entry.2)) = (entry.1, canonical entry.2) :=
        fun entry member =>
          Prod.ext rfl (canonical_canonical (each entry (List.mem_of_mem_filter member)))
      have permuted : (((canonicalFields entries).filter fun entry => keeps entry.1).map
          fun entry => (entry.1, canonical entry.2)).Perm
            ((entries.filter fun entry => keeps entry.1).map
              fun entry => (entry.1, canonical entry.2)) := by
        have sorted := ((sortEntries_perm (entries.map fun entry =>
          (entry.1, canonical entry.2))).filter fun entry => keeps entry.1).map
            fun entry => (entry.1, canonical entry.2)
        rw [List.filter_map, List.map_map] at sorted
        exact sorted.trans (by rw [← List.map_congr_left twice]; rfl)
      have filtered : ((entries.filter fun entry => keeps entry.1).map Prod.fst).Nodup :=
        (List.filter_sublist.map Prod.fst).nodup distinct
      rw [canonical_object, canonical_object, canonicalFields, canonicalFields]
      exact congrArg Document.object
        (sortEntries_eq_of_perm (by rwa [keys_map_snd]) permuted.symm).symm

/-- The text of an object with a field starts with a brace and a quote. -/
theorem dumps_object_head
    (floats : FloatFormat Double)
    {entries : List (Text × Document Double)}
    (notEmpty : entries ≠ []) :
    Exists fun rest => dumps floats (.object entries) = char '\x7b' :: char '"' :: rest := by
  have hasField : canonicalFields entries ≠ [] := by
    intro empty
    have length := (sortEntries_perm (entries.map fun entry =>
      (entry.1, canonical entry.2))).length_eq
    rw [← canonicalFields, empty, List.length_map] at length
    exact notEmpty (List.length_eq_zero_iff.mp length.symm)
  obtain ⟨⟨key, value⟩, fields, same⟩ := List.exists_cons_of_ne_nil hasField
  rw [dumps, canonical_object, same, write, quoted]
  exact ⟨_, rfl⟩

end Document
end Library
end LakehouseOps
