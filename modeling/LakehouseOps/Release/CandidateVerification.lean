import LakehouseOps.Release.ReleaseCandidate

/-!
# Verification of archives

What the verifier wants of the entries of a packed archive, and of a manifest as the builder
writes it.
-/

namespace LakehouseOps
namespace Release
namespace ReleaseCandidate

open Library Library.Fallible Library.Document

variable {Double : Type}

/-! ## Assumptions -/

/-- An entry as `tarfile` lists it. -/
def regular (entry : Text × ByteArray) : TarMember where
  name := entry.1
  isFile := true
  size := entry.2.size
  content := some entry.2

/-- What Python promises: floats and digests have their forms, ASCII is decoded as it stands,
and an archive gives back the entries it was made of. -/
structure Tools.Lawful (tools : Tools Double) : Prop where
  floats : tools.floats.Lawful
  isDigest : forall content, isDigest (tools.sha256 content) = true
  decodeAscii : forall points bytes, Ascii points -> encodeUtf8 points = some bytes ->
    tools.decodeJson bytes = some points
  unpack_pack : forall entries bundle, tools.pack entries = some bundle ->
    tools.unpack bundle = some { members := entries.map regular, whole := true }

theorem isText_self (value : Text) :
    isText (some (.string value) : Option (Document Double)) value = true :=
  decide_eq_true rfl

theorem isText_ne_false (value : Text) :
    ¬isText (some (.string value) : Option (Document Double)) value = false := by
  rw [isText_self]
  exact Bool.noConfusion

/-! ## Reading the archive -/

theorem extract_of_small {content : ByteArray} {bound : Nat} (small : content.size ≤ bound) :
    content.extract 0 bound = content := by
  apply ByteArray.ext
  rw [ByteArray.data_extract]
  exact Array.extract_eq_self_of_le small

/-- The size of all entries. -/
def totalSize (entries : List (Text × ByteArray)) : Nat :=
  (entries.map fun entry => entry.2.size).sum

/-- What the reader wants of an entry. -/
structure ReadableEntry (entry : Text × ByteArray) : Prop where
  path : validateArchivePath entry.1 = .ok ()
  size : entry.2.size ≤ maxMemberBytes

/-- The loop at an entry that is listed as it is. -/
theorem readMembers_regular
    (entry : Text × ByteArray)
    (rest : List TarMember)
    (members : List (Text × ByteArray))
    (total : Nat) :
    readMembers (regular entry :: rest) members total = (do
      reject (maxArchiveMembers ≤ members.length) "archive has too many members"
      validateArchivePath entry.1
      reject (entry.1 ∈ members.map Prod.fst) ("duplicate archive member: " ++ shown entry.1)
      reject (maxMemberBytes < entry.2.size) ("archive member is too large: " ++ shown entry.1)
      reject (maxArchiveBytes < total + entry.2.size) "archive expands beyond the size limit"
      reject ((entry.2.extract 0 (maxMemberBytes + 1)).size ≠ entry.2.size)
        ("archive member size is invalid: " ++ shown entry.1)
      readMembers rest (members ++ [(entry.1, entry.2.extract 0 (maxMemberBytes + 1))])
        (total + entry.2.size)) := rfl

/-- Entries with distinct names are read exactly when each is readable and all are within
the bounds. -/
theorem readMembers_regular_iff
    {entries members result : List (Text × ByteArray)}
    {total : Nat}
    (distinct : ((members ++ entries).map Prod.fst).Nodup)
    (countFits : members.length ≤ maxArchiveMembers)
    (sizeFits : total ≤ maxArchiveBytes) :
    readMembers (entries.map regular) members total = .ok result ↔
      ((forall entry, entry ∈ entries -> ReadableEntry entry) ∧
        members.length + entries.length ≤ maxArchiveMembers ∧
        total + totalSize entries ≤ maxArchiveBytes) ∧ result = members ++ entries := by
  induction entries generalizing members total with
  | nil =>
      rw [List.map_nil, readMembers, List.append_nil]
      constructor
      · intro returned
        exact ⟨⟨List.forall_mem_nil _, countFits, sizeFits⟩, (Except.ok.inj returned).symm⟩
      · rintro ⟨_, rfl⟩
        rfl
  | cons entry entries inductionHypothesis =>
      have moved : members ++ entry :: entries = (members ++ [entry]) ++ entries := by
        rw [List.append_assoc, List.singleton_append]
      have isNew : entry.1 ∉ members.map Prod.fst := by
        intro member
        rw [List.map_append, List.nodup_append] at distinct
        exact distinct.2.2 _ member _ List.mem_cons_self rfl
      have whole : totalSize (entry :: entries) = entry.2.size + totalSize entries := rfl
      rw [List.map_cons, readMembers_regular]
      simp only [bind_eq_ok_iff, reject_eq_ok_iff, not_le, not_lt, ne_eq, not_not]
      constructor
      · rintro ⟨_, hasRoom, _, isSafe, _, _, _, small, _, within, _, _, returned⟩
        rw [extract_of_small (by omega)] at returned
        obtain ⟨⟨each, count, size⟩, same⟩ := (inductionHypothesis (moved ▸ distinct)
          (by rw [List.length_append, List.length_singleton]; omega) (by omega)).mp returned
        rw [List.length_append, List.length_singleton] at count
        exact ⟨⟨List.forall_mem_cons.mpr ⟨⟨isSafe, by omega⟩, each⟩, by
          rw [List.length_cons]; omega, by omega⟩, by rw [moved, same]⟩
      · rintro ⟨⟨each, count, size⟩, rfl⟩
        obtain ⟨readable, others⟩ := List.forall_mem_cons.mp each
        have small := readable.size
        rw [List.length_cons] at count
        refine ⟨(), by omega, (), readable.path, (), isNew, (), by omega, (), by omega, ?_⟩
        rw [extract_of_small (by omega)]
        refine ⟨(), by simp, (inductionHypothesis (moved ▸ distinct)
          (by rw [List.length_append, List.length_singleton]; omega) (by omega)).mpr
          ⟨⟨others, ?_, by omega⟩, moved⟩⟩
        rw [List.length_append, List.length_singleton]
        omega

/-- Entries that the reader takes. -/
structure Readable (entries : List (Text × ByteArray)) : Prop where
  each : forall entry, entry ∈ entries -> ReadableEntry entry
  count : entries.length ≤ maxArchiveMembers
  size : totalSize entries ≤ maxArchiveBytes

/-- The entries of a packed archive are read exactly when the reader takes them. -/
theorem readArchive_iff
    {tools : Tools Double}
    (lawful : tools.Lawful)
    {entries result : List (Text × ByteArray)}
    {bundle : ByteArray}
    (distinct : (entries.map Prod.fst).Nodup)
    (packed : tools.pack (sortEntries entries) = some bundle) :
    readArchive tools bundle = .ok result ↔ Readable entries ∧ result = sortEntries entries := by
  have sorted := sortEntries_perm entries
  have sameSize : totalSize (sortEntries entries) = totalSize entries :=
    (sorted.map fun entry : Text × ByteArray => entry.2.size).sum_eq
  have read : readArchive tools bundle = readMembers ((sortEntries entries).map regular) [] 0 := by
    rw [readArchive, lawful.unpack_pack _ _ packed]
    dsimp only
    cases readMembers ((sortEntries entries).map regular) [] 0 <;> rfl
  rw [read, readMembers_regular_iff (by rw [List.nil_append]; exact keys_sortEntries_nodup distinct)
    (Nat.zero_le _) (Nat.zero_le _), List.nil_append, List.length_nil, sameSize, sorted.length_eq,
    Nat.zero_add, Nat.zero_add]
  constructor
  · rintro ⟨⟨each, count, size⟩, same⟩
    exact ⟨⟨fun entry member => each entry (sorted.mem_iff.mpr member), count, size⟩, same⟩
  · rintro ⟨⟨each, count, size⟩, same⟩
    exact ⟨⟨fun entry member => each entry (sorted.mem_iff.mp member), count, size⟩, same⟩

/-! ## The manifest -/

theorem keys_entryFields (tools : Tools Double) (entry : Text × ByteArray) :
    (entryFields tools entry).map Prod.fst = [text "path", text "sha256"] := rfl

theorem keys_manifestFields
    (tools : Tools Double)
    (sourceRevision : Text)
    (entries : List (Text × ByteArray)) :
    (manifestFields tools sourceRevision entries).map Prod.fst =
      [text "schema_version", text "status", text "target_release", text "source_revision",
        text "entries"] := rfl

theorem entryFields_distinct (tools : Tools Double) (entry : Text × ByteArray) :
    ((entryFields tools entry).map Prod.fst).Nodup := by
  rw [keys_entryFields]
  decide

theorem manifestFields_distinct
    (tools : Tools Double)
    (sourceRevision : Text)
    (entries : List (Text × ByteArray)) :
    ((manifestFields tools sourceRevision entries).map Prod.fst).Nodup := by
  rw [keys_manifestFields]
  decide

theorem keys_canonicalFields_perm (fields : Fields Double) :
    ((canonicalFields fields).map Prod.fst).Perm (fields.map Prod.fst) := by
  have sorted := (sortEntries_perm (fields.map fun entry => (entry.1, canonical entry.2))).map
    Prod.fst
  rwa [keys_map_snd] at sorted

/-- An entry of the manifest is valid when its path is safe and new. -/
theorem validateEntry_iff
    {tools : Tools Double}
    (lawful : tools.Lawful)
    {entry : Text × ByteArray}
    {verified result : List (Text × Text)} :
    validateEntry (.object (canonicalFields (entryFields tools entry))) verified = .ok result ↔
      (validateArchivePath entry.1 = .ok () ∧ entry.1 ≠ text "manifest.json" ∧
        entry.1 ∉ verified.map Prod.fst) ∧
        result = verified ++ [(entry.1, tools.sha256 entry.2)] := by
  have keys := keys_canonicalFields_perm (entryFields tools entry)
  rw [keys_entryFields] at keys
  have path : (canonicalFields (entryFields tools entry)).lookup (text "path") =
      some (.string entry.1) := by
    rw [lookup_canonicalFields (entryFields_distinct tools entry)]
    rfl
  have digest : (canonicalFields (entryFields tools entry)).lookup (text "sha256") =
      some (.string (tools.sha256 entry.2)) := by
    rw [lookup_canonicalFields (entryFields_distinct tools entry)]
    rfl
  have valid := lawful.isDigest entry.2
  rw [validateEntry, path, digest]
  simp only [bind_eq_ok_iff, reject_eq_ok_iff, not_not, not_or, valid]
  constructor
  · rintro ⟨_, _, _, isSafe, _, ⟨noManifest, isNew⟩, _, _, same⟩
    exact ⟨⟨isSafe, noManifest, isNew⟩, (Except.ok.inj same).symm⟩
  · rintro ⟨⟨isSafe, noManifest, isNew⟩, rfl⟩
    exact ⟨(), keys, (), isSafe, (), ⟨noManifest, isNew⟩, (), Bool.noConfusion, rfl⟩

/-- The digests of the entries, as the manifest has them. -/
def inventory (tools : Tools Double) (entries : List (Text × ByteArray)) : List (Text × Text) :=
  entries.map fun entry => (entry.1, tools.sha256 entry.2)

theorem keys_inventory (tools : Tools Double) (entries : List (Text × ByteArray)) :
    (inventory tools entries).map Prod.fst = entries.map Prod.fst :=
  keys_map_snd tools.sha256 entries

/-- Entries with distinct names that are not the manifest's are valid when their paths are
safe. -/
theorem validateEntries_iff
    {tools : Tools Double}
    (lawful : tools.Lawful)
    {entries : List (Text × ByteArray)}
    {verified : List (Text × Text)}
    (distinct : (verified.map Prod.fst ++ entries.map Prod.fst).Nodup)
    (noManifest : text "manifest.json" ∉ entries.map Prod.fst)
    (result : List (Text × Text)) :
    validateEntries (entries.map fun entry =>
        .object (canonicalFields (entryFields tools entry))) verified = .ok result ↔
      (forall entry, entry ∈ entries -> validateArchivePath entry.1 = .ok ()) ∧
        result = verified ++ inventory tools entries := by
  induction entries generalizing verified result with
  | nil =>
      rw [List.map_nil, validateEntries, inventory, List.map_nil, List.append_nil]
      constructor
      · intro returned
        exact ⟨List.forall_mem_nil _, (Except.ok.inj returned).symm⟩
      · rintro ⟨_, rfl⟩
        rfl
  | cons entry entries inductionHypothesis =>
      rw [List.map_cons, List.mem_cons, not_or] at noManifest
      have isNew : entry.1 ∉ verified.map Prod.fst := by
        intro member
        rw [List.nodup_append] at distinct
        exact distinct.2.2 _ member _ List.mem_cons_self rfl
      have moved : ((verified ++ [(entry.1, tools.sha256 entry.2)]).map Prod.fst ++
          entries.map Prod.fst).Nodup := by
        rw [List.map_append, List.append_assoc]
        exact distinct
      have further := inductionHypothesis moved noManifest.2
      rw [List.map_cons, validateEntries, bind_eq_ok_iff]
      simp only [validateEntry_iff lawful]
      constructor
      · rintro ⟨_, ⟨⟨isSafe, _, _⟩, rfl⟩, returned⟩
        obtain ⟨each, rfl⟩ := (further _).mp returned
        exact ⟨List.forall_mem_cons.mpr ⟨isSafe, each⟩, List.append_assoc _ _ _⟩
      · rintro ⟨each, rfl⟩
        obtain ⟨isSafe, others⟩ := List.forall_mem_cons.mp each
        exact ⟨_, ⟨⟨isSafe, fun same => noManifest.1 same.symm, isNew⟩, rfl⟩,
          (further _).mpr ⟨others, by rw [List.append_assoc]; rfl⟩⟩

/-- The manifest is valid when the paths of its entries are safe. -/
theorem validateManifest_iff
    {tools : Tools Double}
    (lawful : tools.Lawful)
    {sourceRevision : Text}
    {entries : List (Text × ByteArray)}
    {result : List (Text × Text)}
    (present : entries ≠ [])
    (distinct : (entries.map Prod.fst).Nodup)
    (noManifest : text "manifest.json" ∉ entries.map Prod.fst) :
    validateManifest (canonicalFields (manifestFields tools sourceRevision entries))
        sourceRevision = .ok result ↔
      (forall entry, entry ∈ entries -> validateArchivePath entry.1 = .ok ()) ∧
        result = inventory tools (sortEntries entries) := by
  have keys := keys_canonicalFields_perm (manifestFields tools sourceRevision entries)
  rw [keys_manifestFields] at keys
  have field := lookup_canonicalFields (manifestFields_distinct tools sourceRevision entries)
  have schemaVersion : (canonicalFields (manifestFields tools sourceRevision entries)).lookup
      (text "schema_version") = some (.string (text "1.0")) := field (text "schema_version")
  have status : (canonicalFields (manifestFields tools sourceRevision entries)).lookup
      (text "status") = some (.string (text "ready")) := field (text "status")
  have targetRelease : (canonicalFields (manifestFields tools sourceRevision entries)).lookup
      (text "target_release") = some (.string (text "1.0.0")) := field (text "target_release")
  have revision : (canonicalFields (manifestFields tools sourceRevision entries)).lookup
      (text "source_revision") = some (.string sourceRevision) := field (text "source_revision")
  have sorted := sortEntries_perm entries
  have isEntries : (canonicalFields (manifestFields tools sourceRevision entries)).lookup
      (text "entries") = some (.array ((sortEntries entries).map fun entry =>
        .object (canonicalFields (entryFields tools entry)))) := by
    rw [field (text "entries")]
    change some (canonical (.array _)) = _
    rw [canonical_array, List.map_map]
    refine congrArg (fun values => some (Document.array values)) (List.map_congr_left ?_)
    exact fun entry _ => canonical_object _
  have nonEmpty : sortEntries entries ≠ [] := by
    intro nothing
    rw [nothing] at sorted
    exact present sorted.nil_eq.symm
  obtain ⟨first, rest, isCons⟩ := List.exists_cons_of_ne_nil nonEmpty
  have startDistinct : ((([] : List (Text × Text)).map Prod.fst) ++
      (sortEntries entries).map Prod.fst).Nodup := keys_sortEntries_nodup distinct
  have validated := validateEntries_iff lawful startDistinct
    (mt (sorted.map Prod.fst).mem_iff.mp noManifest) result
  rw [List.nil_append] at validated
  have reached : validateManifest (canonicalFields (manifestFields tools sourceRevision entries))
      sourceRevision = validateEntries ((sortEntries entries).map fun entry =>
        .object (canonicalFields (entryFields tools entry))) [] := by
    rw [validateManifest, reject_bind_of_not (not_not.mpr keys), schemaVersion, status,
      targetRelease, revision, isEntries, isCons, List.map_cons,
      reject_bind_of_not (not_not.mpr ⟨isText_self _, isText_self _, isText_self _,
        isText_self _⟩)]
  rw [reached, validated]
  exact and_congr_left fun _ => forall_congr' fun entry => by rw [sorted.mem_iff]

/-- A digest has no surrogates. -/
theorem plain_of_isDigest {points : Text} (digest : isDigest points = true) : Plain points := by
  rw [isDigest, Bool.and_eq_true, List.all_eq_true] at digest
  intro point member
  exact plain_text "0123456789abcdef" point (of_decide_eq_true (digest.2 point member))

theorem joinedTexts_manifest
    {tools : Tools Double}
    (lawful : tools.Lawful)
    {sourceRevision : Text}
    {entries : List (Text × ByteArray)}
    (joinedRevision : Joined sourceRevision)
    (joinedNames : forall entry, entry ∈ entries -> Joined entry.1) :
    JoinedTexts (.object (manifestFields tools sourceRevision entries) : Document Double) := by
  have word : forall string : String, Joined (text string) :=
    fun string => joined_of_plain (plain_text string)
  have isEntry : forall entry, entry ∈ sortEntries entries ->
      JoinedTexts (.object (entryFields tools entry) : Document Double) := by
    intro entry member
    have joinedName := joinedNames entry ((sortEntries_perm entries).mem_iff.mp member)
    have joinedDigest := joined_of_plain (plain_of_isDigest (lawful.isDigest entry.2))
    refine .object (List.forall_mem_cons.mpr ⟨word _, List.forall_mem_singleton.mpr (word _)⟩) ?_
    exact List.forall_mem_cons.mpr ⟨.string joinedName,
      List.forall_mem_singleton.mpr (.string joinedDigest)⟩
  have isEntries : JoinedTexts (.array ((sortEntries entries).map fun entry =>
      .object (entryFields tools entry)) : Document Double) := by
    refine .array fun value member => ?_
    obtain ⟨entry, isMember, rfl⟩ := List.mem_map.mp member
    exact isEntry entry isMember
  refine .object (fun entry member => ?_) ?_
  · have key : entry.1 ∈ (manifestFields tools sourceRevision entries).map Prod.fst :=
      List.mem_map_of_mem member
    rw [keys_manifestFields] at key
    have each : forall name, name ∈ [text "schema_version", text "status", text "target_release",
        text "source_revision", text "entries"] -> Joined name := by
      simp only [List.forall_mem_cons, word, List.not_mem_nil, false_imp_iff, implies_true,
        and_self]
    exact each _ key
  · exact List.forall_mem_cons.mpr ⟨.string (word _), List.forall_mem_cons.mpr ⟨.string (word _),
      List.forall_mem_cons.mpr ⟨.string (word _), List.forall_mem_cons.mpr
        ⟨.string joinedRevision, List.forall_mem_singleton.mpr isEntries⟩⟩⟩⟩

theorem wellFormed_manifest
    (tools : Tools Double)
    (sourceRevision : Text)
    (entries : List (Text × ByteArray)) :
    WellFormed (.object (manifestFields tools sourceRevision entries) : Document Double) := by
  have isEntries : WellFormed (.array ((sortEntries entries).map fun entry =>
      .object (entryFields tools entry)) : Document Double) := by
    refine .array fun value member => ?_
    obtain ⟨entry, _, rfl⟩ := List.mem_map.mp member
    exact .object (entryFields_distinct tools entry) (List.forall_mem_cons.mpr
      ⟨.string _, List.forall_mem_singleton.mpr (.string _)⟩)
  exact .object (manifestFields_distinct tools sourceRevision entries)
    (List.forall_mem_cons.mpr ⟨.string _, List.forall_mem_cons.mpr ⟨.string _,
      List.forall_mem_cons.mpr ⟨.string _, List.forall_mem_cons.mpr
        ⟨.string _, List.forall_mem_singleton.mpr isEntries⟩⟩⟩⟩)

/-- The written manifest is loaded back, with sorted fields. -/
theorem loadJsonBytes_manifest
    {tools : Tools Double}
    (lawful : tools.Lawful)
    {sourceRevision : Text}
    {entries : List (Text × ByteArray)}
    (joinedRevision : Joined sourceRevision)
    (joinedNames : forall entry, entry ∈ entries -> Joined entry.1)
    {manifest : ByteArray}
    (isManifest : manifestContent tools sourceRevision entries = some manifest)
    (label : String) :
    loadJsonBytes tools manifest label =
      .ok (canonicalFields (manifestFields tools sourceRevision entries)) := by
  have loaded := loads_dumpsIndented lawful.floats
    (wellFormed_manifest tools sourceRevision entries)
    (joinedTexts_manifest lawful joinedRevision joinedNames)
  have ascii : Ascii (dumpsIndented tools.floats
      (.object (manifestFields tools sourceRevision entries)) ++ [10]) :=
    ascii_append.mpr ⟨ascii_dumpsIndented lawful.floats _, ascii_text "\n" (by decide)⟩
  rw [canonical_object] at loaded
  rw [loadJsonBytes, lawful.decodeAscii _ _ ascii isManifest, objectOf, Option.bind_some, loaded]

/-- Every manifest can be encoded. -/
theorem manifestContent_isSome
    {tools : Tools Double}
    (lawful : tools.Lawful)
    (sourceRevision : Text)
    (entries : List (Text × ByteArray)) :
    Exists fun manifest => manifestContent tools sourceRevision entries = some manifest :=
  encodeUtf8_of_ascii (ascii_append.mpr
    ⟨ascii_dumpsIndented lawful.floats _, ascii_text "\n" (by decide)⟩)

end ReleaseCandidate
end Release
end LakehouseOps
