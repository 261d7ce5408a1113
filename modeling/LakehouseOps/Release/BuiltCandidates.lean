import LakehouseOps.Release.CandidateVerification

/-!
# Built candidates that verify

A built candidate is verified exactly when the paths of its evidence are spelled as the
verifier wants them and its files are within the bounds of the verifier. The builder checks
neither.
-/

namespace LakehouseOps
namespace Release
namespace ReleaseCandidate

open Library Library.Fallible Library.Document

variable {Double : Type}

/-! ## The files of a candidate -/

section Files

variable (tools : Tools Double) (files : Files) (request : BuildRequest)

/-- The attestation that the request names. -/
def attestationOf : Fields Double :=
  match loadObject tools files request.attestationPath "release readiness attestation" with
  | .ok attestation => attestation
  | .error _ => []

/-- The path of an entry of the evidence. -/
def evidencePath : Document Double -> Option Text
  | .object fields =>
      match fields.lookup (text "path") with
      | some (.string relativePath) => some relativePath
      | _ => none
  | _ => none

/-- The paths of the evidence of an attestation. -/
def evidencePaths (attestation : Fields Double) : List Text :=
  match attestation.lookup (text "evidence") with
  | some (.array entries) => entries.filterMap evidencePath
  | _ => []

/-- What a file below the evidence root holds. -/
def contentBelow (relativePath : Text) : ByteArray :=
  match resolveBelow files request.evidenceRoot relativePath with
  | .ok path => (files.read path).getD .empty
  | .error _ => .empty

/-- Whether a directory of commerce evidence is there. -/
def hasCommerce (commerce : CommercePath) : Bool :=
  match resolveBelow files request.evidenceRoot (text commerce.path) with
  | .ok path => files.present path
  | .error _ => false

/-- The names and the contents of the files that the request and the attestation name. -/
def candidateFiles : List (Text × ByteArray) :=
  dictOf (request.documents.map (fun document =>
      (document.1, (files.read document.2).getD .empty)) ++
    (evidencePaths (attestationOf tools files request)).map (fun relativePath =>
      (evidenceName relativePath, contentBelow files request relativePath)) ++
    (commercePaths.map fun commerce =>
      if hasCommerce files request commerce then commerce.members.map fun relativePath =>
        (evidenceName relativePath, contentBelow files request relativePath)
      else []).flatten)

/-- The files with the manifest of them. -/
def archiveFiles : List (Text × ByteArray) :=
  candidateFiles tools files request ++
    [(text "manifest.json", (manifestContent tools request.sourceRevision
      (candidateFiles tools files request)).getD .empty)]

/-- The evidence is spelled as the verifier wants it, and the files are within its bounds. -/
structure Verifiable : Prop where
  spelled : forall relativePath,
    relativePath ∈ evidencePaths (attestationOf tools files request) ->
      validateArchivePath (evidenceName relativePath) = .ok ()
  count : (archiveFiles tools files request).length ≤ maxArchiveMembers
  each : forall file, file ∈ archiveFiles tools files request -> file.2.size ≤ maxMemberBytes
  size : totalSize (archiveFiles tools files request) ≤ maxArchiveBytes

end Files

section Built

variable {tools : Tools Double} {files : Files} {request : BuildRequest}

theorem readBytes_ok
    {path : PosixPath}
    {content : ByteArray}
    (isContent : readBytes files path = .ok content) :
    files.read path = some content := by
  unfold readBytes at isContent
  split at isContent
  · next found => rw [found, Except.ok.inj isContent]
  · cases isContent

theorem packDocument_eq
    {document : Text × PosixPath}
    {result : Text × ByteArray}
    (packed : packDocument files document = .ok result) :
    result = (document.1, (files.read document.2).getD .empty) := by
  obtain ⟨content, isContent, returned⟩ := bind_eq_ok_iff.mp packed
  rw [← Except.ok.inj returned, readBytes_ok isContent, Option.getD_some]

/-- What is read below the evidence root is what the file holds. -/
theorem contentBelow_eq
    {relativePath : Text}
    {path : PosixPath}
    {content : ByteArray}
    (resolved : resolveBelow files request.evidenceRoot relativePath = .ok path)
    (isContent : readBytes files path = .ok content) :
    contentBelow files request relativePath = content := by
  rw [contentBelow, resolved]
  dsimp only
  rw [readBytes_ok isContent, Option.getD_some]

theorem packEvidence_eq
    {entry : Document Double}
    {result : Text × ByteArray}
    (packed : packEvidence tools files request.evidenceRoot entry = .ok result) :
    (evidencePath entry).map (fun relativePath =>
      (evidenceName relativePath, contentBelow files request relativePath)) = some result := by
  unfold packEvidence at packed
  split at packed
  · next fields =>
      split at packed
      · next relativePath expectedDigest isPath _ =>
          simp only [bind_eq_ok_iff] at packed
          obtain ⟨path, resolved, content, isContent, _, _, returned⟩ := packed
          rw [evidencePath, isPath, ← Except.ok.inj returned]
          dsimp only
          rw [Option.map_some, contentBelow_eq resolved isContent]
      · cases packed
  · cases packed

theorem packCommerceMember_eq
    {relativePath : Text}
    {result : Text × ByteArray}
    (packed : packCommerceMember files request.evidenceRoot relativePath = .ok result) :
    some (evidenceName relativePath, contentBelow files request relativePath) = some result := by
  simp only [packCommerceMember, bind_eq_ok_iff] at packed
  obtain ⟨path, resolved, _, _, content, isContent, returned⟩ := packed
  rw [contentBelow_eq resolved isContent]
  exact congrArg some (Except.ok.inj returned)

theorem packCommerce_eq
    {commerce : CommercePath}
    {result : List (Text × ByteArray)}
    (packed : packCommerce tools files request.evidenceRoot commerce = .ok result) :
    some (if hasCommerce files request commerce then commerce.members.map fun relativePath =>
        (evidenceName relativePath, contentBelow files request relativePath)
      else []) = some result := by
  obtain ⟨commerceRoot, resolved, packed⟩ := bind_eq_ok_iff.mp packed
  rw [hasCommerce, resolved]
  dsimp only
  split at packed
  · next absent =>
      rw [if_neg (by rw [absent]; exact Bool.false_ne_true)]
      exact congrArg some (Except.ok.inj packed)
  · next isPresent =>
      obtain ⟨members, areMembers, packed⟩ := bind_eq_ok_iff.mp packed
      obtain ⟨report, _, packed⟩ := bind_eq_ok_iff.mp packed
      obtain ⟨_, _, returned⟩ := bind_eq_ok_iff.mp packed
      rw [if_pos (Bool.eq_true_of_not_eq_false isPresent), ← Except.ok.inj returned,
        eq_filterMap_of_mapM_eq_ok (fun _ _ => packCommerceMember_eq) areMembers,
        List.filterMap_eq_map']

/-- What a build that returns has found and made. -/
structure Built
    (tools : Tools Double)
    (files : Files)
    (request : BuildRequest)
    (candidate : Candidate Double) : Prop where
  revision : stripPoints request.sourceRevision ≠ []
  attestation : loadObject tools files request.attestationPath
    "release readiness attestation" = .ok (attestationOf tools files request)
  sourceRevision : isText ((attestationOf tools files request).lookup (text "source_revision"))
    request.sourceRevision = true
  manifest : Exists fun manifest =>
    manifestContent tools request.sourceRevision (candidateFiles tools files request) =
        some manifest ∧
      candidate.entries =
        dictOf (candidateFiles tools files request ++ [(text "manifest.json", manifest)])
  packed : tools.pack (sortEntries candidate.entries) = some candidate.bundle
  report : candidate.report =
    reportOf tools request.sourceRevision candidate.entries.length candidate.bundle
  accepted : tools.acceptsReport candidate.report = true

theorem evidencePaths_eq
    {attestation : Fields Double}
    {evidence : List (Document Double)}
    (isEvidence : evidenceOf attestation = .ok evidence) :
    evidencePaths attestation = evidence.filterMap evidencePath := by
  unfold evidenceOf at isEvidence
  split at isEvidence
  · next first rest found =>
      rw [evidencePaths, found, ← Except.ok.inj isEvidence]
  · cases isEvidence

/-- The assignments of a build are those of the files that are named. -/
theorem candidateFiles_eq
    {documents evidenceMembers : List (Text × ByteArray)}
    {commerceMembers : List (List (Text × ByteArray))}
    {evidence : List (Document Double)}
    (areDocuments : request.documents.mapM (packDocument files) = .ok documents)
    (isEvidence : evidenceOf (attestationOf tools files request) = .ok evidence)
    (areEvidence : evidence.mapM (packEvidence tools files request.evidenceRoot) =
      .ok evidenceMembers)
    (areCommerce : commercePaths.mapM (packCommerce tools files request.evidenceRoot) =
      .ok commerceMembers) :
    dictOf (documents ++ evidenceMembers ++ commerceMembers.flatten) =
      candidateFiles tools files request := by
  have packedDocuments := eq_filterMap_of_mapM_eq_ok
    (fun _ _ packed => congrArg some (packDocument_eq packed).symm) areDocuments
  have packedEvidence := eq_filterMap_of_mapM_eq_ok (fun _ _ => packEvidence_eq) areEvidence
  have packedCommerce := eq_filterMap_of_mapM_eq_ok (fun _ _ => packCommerce_eq) areCommerce
  rw [candidateFiles, evidencePaths_eq isEvidence, List.map_filterMap, packedDocuments,
    packedEvidence, packedCommerce, List.filterMap_eq_map', List.filterMap_eq_map']

theorem built_of_ok
    {candidate : Candidate Double}
    (built : buildReleaseCandidate tools files request = .ok candidate) :
    Built tools files request candidate := by
  simp only [buildReleaseCandidate, bind_eq_ok_iff, reject_eq_ok_iff] at built
  obtain ⟨_, revision, attestation, isAttestation, _, checked, documents, areDocuments, evidence,
    isEvidence, evidenceMembers, areEvidence, commerceMembers, areCommerce, _, _, built⟩ := built
  have loaded : attestationOf tools files request = attestation := by
    rw [attestationOf, isAttestation]
  rw [← loaded] at isAttestation isEvidence checked
  rw [candidateFiles_eq areDocuments isEvidence areEvidence areCommerce] at built
  simp only [checkAttestation, bind_eq_ok_iff, reject_eq_ok_iff, Bool.not_eq_false] at checked
  obtain ⟨_, _, _, sourceRevision, _⟩ := checked
  cases isManifest : manifestContent tools request.sourceRevision
      (candidateFiles tools files request) with
  | none =>
      rw [isManifest] at built
      cases built
  | some manifest =>
      rw [isManifest] at built
      dsimp only at built
      cases isPacked : tools.pack (sortEntries (dictOf (candidateFiles tools files request ++
          [(text "manifest.json", manifest)]))) with
      | none =>
          rw [isPacked] at built
          cases built
      | some bundle =>
          rw [isPacked] at built
          obtain ⟨_, accepted, returned⟩ := bind_eq_ok_iff.mp built
          rw [reject_eq_ok_iff, Bool.not_eq_false] at accepted
          rw [← Except.ok.inj returned]
          exact {
            revision := revision
            attestation := isAttestation
            sourceRevision := sourceRevision
            manifest := ⟨manifest, isManifest, rfl⟩
            packed := isPacked
            report := rfl
            accepted := accepted
          }

/-! ## The names -/

/-- The names that are not from the attestation. -/
def fixedNames : List Text :=
  [text "attestation/release-readiness.json", text "contracts/readiness-contract.json",
    text "contracts/control-plane-contract.json", text "upgrade/upgrade-plan.json",
    text "upgrade/trino-upgrade-rehearsal.json"] ++
    (commercePaths.flatMap CommercePath.members).map evidenceName

theorem safe_of_toBool {name : Text} (isSafe : (validateArchivePath name).toBool = true) :
    validateArchivePath name = .ok () := by
  cases validated : validateArchivePath name with
  | error problem =>
      rw [validated] at isSafe
      exact absurd isSafe Bool.false_ne_true
  | ok _ => rfl

theorem fixedNames_safe : forall name, name ∈ fixedNames -> validateArchivePath name = .ok () := by
  have each : (fixedNames.all fun name => (validateArchivePath name).toBool) = true := by
    decide +kernel
  exact fun name member => safe_of_toBool (List.all_eq_true.mp each name member)

theorem fixedNames_plain : forall name, name ∈ fixedNames -> Plain name := by
  have each : (fixedNames.all fun name => name.all fun point => (toChar? point).isSome) = true := by
    decide +kernel
  exact fun name member => List.all_eq_true.mp (List.all_eq_true.mp each name member)

/-- A name of a file is fixed or names a path of the evidence. -/
theorem name_cases
    {name : Text}
    (member : name ∈ (candidateFiles tools files request).map Prod.fst) :
    name ∈ fixedNames ∨
      Exists fun relativePath =>
        relativePath ∈ evidencePaths (attestationOf tools files request) ∧
          name = evidenceName relativePath := by
  rw [candidateFiles, mem_keys_dictOf, List.map_append, List.map_append, List.mem_append,
    List.mem_append] at member
  rcases member with (isDocument | isEvidence) | isCommerce
  · rw [List.map_map] at isDocument
    exact .inl (List.mem_append_left _ isDocument)
  · rw [List.map_map] at isEvidence
    obtain ⟨relativePath, isPath, same⟩ := List.mem_map.mp isEvidence
    exact .inr ⟨relativePath, isPath, same.symm⟩
  · obtain ⟨file, isFile, rfl⟩ := List.mem_map.mp isCommerce
    obtain ⟨members, areMembers, isMember⟩ := List.mem_flatten.mp isFile
    obtain ⟨commerce, isCommercePath, rfl⟩ := List.mem_map.mp areMembers
    split at isMember
    · obtain ⟨relativePath, isPath, rfl⟩ := List.mem_map.mp isMember
      exact .inl (List.mem_append_right _ (List.mem_map_of_mem
        (List.mem_flatMap.mpr ⟨commerce, isCommercePath, isPath⟩)))
    · exact absurd isMember List.not_mem_nil

/-- Every path of the evidence names a file. -/
theorem evidenceName_mem
    {relativePath : Text}
    (member : relativePath ∈ evidencePaths (attestationOf tools files request)) :
    evidenceName relativePath ∈ (candidateFiles tools files request).map Prod.fst := by
  rw [candidateFiles, mem_keys_dictOf, List.map_append, List.map_append, List.map_map, List.map_map]
  exact List.mem_append_left _ (List.mem_append_right _ (List.mem_map_of_mem member))

/-- The paths of the files are safe when those of the evidence are. -/
theorem candidateFiles_safe_iff :
    (forall file, file ∈ candidateFiles tools files request ->
        validateArchivePath file.1 = .ok ()) ↔
      forall relativePath, relativePath ∈ evidencePaths (attestationOf tools files request) ->
        validateArchivePath (evidenceName relativePath) = .ok () := by
  constructor
  · intro each relativePath member
    obtain ⟨file, isFile, same⟩ := List.mem_map.mp (evidenceName_mem member)
    rw [← same]
    exact each file isFile
  · intro each file member
    rcases name_cases (List.mem_map_of_mem member) with isFixed | ⟨relativePath, isPath, same⟩
    · exact fixedNames_safe file.1 isFixed
    · rw [same]
      exact each relativePath isPath

theorem manifest_not_mem :
    text "manifest.json" ∉ (candidateFiles tools files request).map Prod.fst := by
  intro member
  rcases name_cases member with isFixed | ⟨relativePath, _, same⟩
  · exact absurd isFixed (by decide +kernel)
  · have head := congrArg List.head? same
    exact absurd (Option.some.inj head) (by decide)

theorem archiveFiles_distinct :
    ((archiveFiles tools files request).map Prod.fst).Nodup := by
  rw [archiveFiles, List.map_append]
  refine List.nodup_append.mpr ⟨keys_dictOf_nodup _, List.nodup_singleton _, ?_⟩
  intro name isName other isManifest same
  rw [same, List.mem_singleton.mp isManifest] at isName
  exact manifest_not_mem isName

theorem plain_decodeUtf8 {content : ByteArray} {points : Text}
    (decoded : decodeUtf8 content = some points) : Plain points := by
  obtain ⟨string, _, rfl⟩ := Option.map_eq_some_iff.mp decoded
  exact plain_text string

/-- An object that is loaded from a file has joined texts. -/
theorem joinedTexts_loadObject
    {path : PosixPath}
    {label : String}
    {fields : Fields Double}
    (loaded : loadObject tools files path label = .ok fields) :
    JoinedTexts (.object fields : Document Double) := by
  unfold loadObject objectOf at loaded
  split at loaded
  · cases loaded
  · next found =>
      obtain ⟨points, isText, isLoaded⟩ := Option.bind_eq_some_iff.mp found
      obtain ⟨content, _, decoded⟩ := Option.bind_eq_some_iff.mp isText
      rw [← Except.ok.inj loaded]
      exact joinedTexts_loads (plain_decodeUtf8 decoded) isLoaded
  · cases loaded

theorem joined_evidencePath
    {attestation : Fields Double}
    (joined : JoinedTexts (.object attestation : Document Double))
    {relativePath : Text}
    (member : relativePath ∈ evidencePaths attestation) :
    Joined relativePath := by
  unfold evidencePaths at member
  split at member
  · next entries found =>
      obtain ⟨entry, isEntry, isPath⟩ := List.mem_filterMap.mp member
      have joinedEntry : JoinedTexts entry := by
        cases joined.of_lookup found with
        | array each => exact each entry isEntry
      unfold evidencePath at isPath
      split at isPath
      · split at isPath
        · next isText =>
            rw [← Option.some.inj isPath]
            exact (joinedEntry.of_lookup isText).joined
        · exact absurd isPath.symm (Option.some_ne_none _)
      · exact absurd isPath.symm (Option.some_ne_none _)
  · exact absurd member List.not_mem_nil

/-- A file of an object is loaded. -/
theorem loadObject_of
    {path : PosixPath}
    {label : String}
    {content : ByteArray}
    {fields : Fields Double}
    (isContent : files.read path = some content)
    (loaded : (decodeUtf8 content).bind (loads tools.floats) = some (.object fields)) :
    loadObject tools files path label = .ok fields := by
  rw [loadObject, objectOf, isContent, Option.bind_some, loaded]

theorem readBytes_of_loadObject
    {path : PosixPath}
    {label : String}
    {fields : Fields Double}
    (loaded : loadObject tools files path label = .ok fields) :
    Exists fun content => readBytes files path = .ok content := by
  cases found : files.read path with
  | none =>
      rw [loadObject, found] at loaded
      cases loaded
  | some content => exact ⟨content, by rw [readBytes, found]⟩

theorem eq_of_isText {field : Option (Document Double)} {expected : Text}
    (isExpected : isText field expected = true) : field = some (.string expected) := by
  unfold isText at isExpected
  split at isExpected
  · rw [of_decide_eq_true isExpected]
  · exact absurd isExpected Bool.false_ne_true

theorem candidateFiles_ne_nil : candidateFiles tools files request ≠ [] := by
  intro none
  have member : text "contracts/readiness-contract.json" ∈
      (candidateFiles tools files request).map Prod.fst := by
    rw [candidateFiles, mem_keys_dictOf, List.append_assoc]
    exact List.mem_cons_of_mem _ List.mem_cons_self
  rw [none] at member
  exact absurd member List.not_mem_nil

/-- The entries of the archive are the files with the manifest. -/
theorem Built.entries_eq
    {candidate : Candidate Double}
    (built : Built tools files request candidate) :
    candidate.entries = archiveFiles tools files request := by
  obtain ⟨manifest, isManifest, areEntries⟩ := built.manifest
  have distinct : ((archiveFiles tools files request).map Prod.fst).Nodup := archiveFiles_distinct
  rw [archiveFiles, isManifest, Option.getD_some] at distinct ⊢
  rw [areEntries, dictOf_eq_self distinct]

/-- The reader takes the files exactly when they are verifiable. -/
theorem readable_archiveFiles_iff :
    Readable (archiveFiles tools files request) ↔ Verifiable tools files request := by
  have safeManifest : validateArchivePath (text "manifest.json") = .ok () :=
    safe_of_toBool (by decide +kernel)
  constructor
  · intro readable
    exact {
      spelled := candidateFiles_safe_iff.mp fun file member =>
        (readable.each file (List.mem_append_left _ member)).path
      count := readable.count
      each := fun file member => (readable.each file member).size
      size := readable.size
    }
  · intro verifiable
    refine ⟨fun file member => ⟨?_, verifiable.each file member⟩, verifiable.count,
      verifiable.size⟩
    rcases List.mem_append.mp member with isFile | isManifest
    · exact candidateFiles_safe_iff.mpr verifiable.spelled file isFile
    · rw [List.mem_singleton.mp isManifest]
      exact safeManifest

/-- The members that are in the manifest are as the manifest has them. -/
theorem checkMembers_inventory
    {report : Fields Double}
    {members entries : List (Text × ByteArray)}
    (distinct : (entries.map Prod.fst).Nodup)
    (permuted : members.Perm entries)
    (count : isCount (report.lookup (text "entries")) (entries.length + 1) = true) :
    checkMembers tools report members (inventory tools entries) = .ok () := by
  have sameNames := permuted.map Prod.fst
  have found : forall entry, entry ∈ inventory tools entries ->
      (members.lookup entry.1).map tools.sha256 = some entry.2 := by
    intro entry member
    obtain ⟨file, isFile, rfl⟩ := List.mem_map.mp member
    rw [(lookup_eq_some_iff_mem (sameNames.nodup_iff.mpr distinct)).mpr
      (permuted.mem_iff.mpr isFile), Option.map_some]
  simp only [checkMembers, bind_eq_ok_iff, reject_eq_ok_iff, keys_inventory, not_not,
    Bool.not_eq_false]
  refine ⟨(), ?_, (), ⟨sameNames.subset, sameNames.symm.subset⟩, ?_⟩
  · rw [permuted.length_eq]
    exact count
  · exact forM_eq_ok_iff.mpr fun entry member =>
      reject_eq_ok_iff.mpr (not_not.mpr (found entry member))

end Built

/-! ## Verified candidates -/

section Verified

variable {tools : Tools Double} {files later : Files} {request : BuildRequest}
  {candidate : Candidate Double} {report : Fields Double} {bundlePath reportPath : PosixPath}

theorem keys_reportOf
    (tools : Tools Double)
    (sourceRevision : Text)
    (count : Nat)
    (bundle : ByteArray) :
    (reportOf tools sourceRevision count bundle).map Prod.fst =
      [text "schema_version", text "status", text "target_release", text "source_revision",
        text "entries", text "bundle_sha256"] := rfl

/-- A report that is written and loaded again has the fields of the report. -/
theorem lookup_report
    {sourceRevision : Text}
    {count : Nat}
    {bundle : ByteArray}
    (same : report.Perm (reportOf tools sourceRevision count bundle)) :
    report.lookup (text "source_revision") = some (.string sourceRevision) ∧
      report.lookup (text "entries") = some (.int count) ∧
      report.lookup (text "bundle_sha256") = some (.string (tools.sha256 bundle)) := by
  have distinct : ((reportOf tools sourceRevision count bundle).map Prod.fst).Nodup := by
    rw [keys_reportOf]
    decide
  have field := lookup_eq_of_perm distinct same.symm
  exact ⟨(field _).symm, (field _).symm, (field _).symm⟩

/-- The members other than the manifest are the files that are named. -/
theorem otherMembers_perm :
    ((sortEntries (archiveFiles tools files request)).filter fun member =>
      member.1 ≠ text "manifest.json").Perm (sortEntries (candidateFiles tools files request)) := by
  have sorted := sortEntries_perm (archiveFiles tools files request)
  refine (sorted.filter _).trans (List.Perm.trans ?_ (sortEntries_perm _).symm)
  rw [archiveFiles, List.filter_append, List.filter_eq_self.mpr]
  · exact .of_eq (List.append_nil _)
  · intro file member
    exact decide_eq_true fun isName =>
      manifest_not_mem (List.mem_map.mpr ⟨file, member, isName⟩)

/-- The texts in the manifest of a build can be written and read back. -/
theorem Built.joined
    (built : Built tools files request candidate) :
    Joined request.sourceRevision ∧
      forall file, file ∈ candidateFiles tools files request -> Joined file.1 := by
  have joined := joinedTexts_loadObject built.attestation
  refine ⟨(joined.of_lookup (eq_of_isText built.sourceRevision)).joined, ?_⟩
  intro file member
  rcases name_cases (List.mem_map_of_mem member) with isFixed | ⟨relativePath, isPath, isName⟩
  · exact joined_of_plain (fixedNames_plain file.1 isFixed)
  · rw [isName]
    exact joined_append (plain_text "evidence/") (joined_evidencePath joined isPath)

/-- Where the reader takes the files, all that the verifier checks holds. -/
theorem verify_of_readable
    (lawful : tools.Lawful)
    (built : Built tools files request candidate)
    (readable : Readable (archiveFiles tools files request))
    (bundle : later.read bundlePath = some candidate.bundle)
    (isReport : loadObject tools later reportPath "release candidate report" = .ok report)
    (same : report.Perm candidate.report)
    (accepts : tools.acceptsReport report = true)
    (acceptsVerification : forall reportContent manifest,
      tools.acceptsVerification
        (verificationOf tools report candidate.bundle reportContent manifest) = true) :
    Exists fun verification =>
      verifyReleaseCandidate tools later bundlePath reportPath request.sourceRevision =
        .ok verification := by
  have entriesEq := built.entries_eq
  have distinct : ((archiveFiles tools files request).map Prod.fst).Nodup := archiveFiles_distinct
  have packed := built.packed
  rw [entriesEq] at packed
  have read := (readArchive_iff lawful distinct packed).mpr ⟨readable, rfl⟩
  rw [built.report, entriesEq] at same
  obtain ⟨revision, count, digest⟩ := lookup_report same
  obtain ⟨manifest, isManifest, _⟩ := built.manifest
  have archive : archiveFiles tools files request =
      candidateFiles tools files request ++ [(text "manifest.json", manifest)] := by
    rw [archiveFiles, isManifest, Option.getD_some]
  have sorted := sortEntries_perm (archiveFiles tools files request)
  have hasManifest : (sortEntries (archiveFiles tools files request)).lookup
      (text "manifest.json") = some manifest := by
    rw [lookup_eq_some_iff_mem (keys_sortEntries_nodup distinct), sorted.mem_iff, archive]
    exact List.mem_append_right _ List.mem_cons_self
  have loaded := loadJsonBytes_manifest lawful built.joined.1 built.joined.2 isManifest
    "archive manifest"
  have distinctFiles : ((candidateFiles tools files request).map Prod.fst).Nodup :=
    keys_dictOf_nodup _
  have validated : validateManifest (canonicalFields (manifestFields tools request.sourceRevision
      (candidateFiles tools files request))) request.sourceRevision =
        .ok (inventory tools (sortEntries (candidateFiles tools files request))) :=
    (validateManifest_iff lawful candidateFiles_ne_nil distinctFiles manifest_not_mem).mpr
      ⟨fun file member => (readable.each file (List.mem_append_left _ member)).path, rfl⟩
  have counted : isCount (report.lookup (text "entries"))
      ((sortEntries (candidateFiles tools files request)).length + 1) = true := by
    rw [count, archive, List.length_append, (sortEntries_perm _).length_eq]
    exact decide_eq_true rfl
  have checked : checkMembers tools report ((sortEntries (archiveFiles tools files request)).filter
      fun member => member.1 ≠ text "manifest.json")
        (inventory tools (sortEntries (candidateFiles tools files request))) = .ok () :=
    checkMembers_inventory (keys_sortEntries_nodup distinctFiles) otherMembers_perm counted
  obtain ⟨reportContent, isContent⟩ := readBytes_of_loadObject isReport
  refine ⟨verificationOf tools report candidate.bundle reportContent manifest, ?_⟩
  rw [verifyReleaseCandidate, reject_bind_of_not built.revision, isReport, ok_bind,
    reject_bind_of_not (Bool.not_eq_false _ ▸ accepts), revision,
    reject_bind_of_not (isText_ne_false _), readBytes, bundle]
  dsimp only
  rw [ok_bind, digest, reject_bind_of_not (isText_ne_false _), read, ok_bind,
    hasManifest]
  dsimp only
  rw [loaded, ok_bind, validated, ok_bind, checked, ok_bind, isContent, ok_bind,
    reject_bind_of_not (Bool.not_eq_false _ ▸ acceptsVerification _ _)]
  rfl

/-- The claim of a built candidate: the verifier accepts it, and finds the built entries. -/
theorem built_verifies_iff
    (lawful : tools.Lawful)
    (built : buildReleaseCandidate tools files request = .ok candidate)
    (bundle : later.read bundlePath = some candidate.bundle)
    (isReport : loadObject tools later reportPath "release candidate report" = .ok report)
    (same : report.Perm candidate.report)
    (accepts : tools.acceptsReport report = true)
    (acceptsVerification : forall reportContent manifest,
      tools.acceptsVerification
        (verificationOf tools report candidate.bundle reportContent manifest) = true) :
    ((Exists fun verification =>
        verifyReleaseCandidate tools later bundlePath reportPath request.sourceRevision =
          .ok verification) ∧
      readArchive tools candidate.bundle = .ok (sortEntries candidate.entries)) ↔
      Verifiable tools files request := by
  have facts := built_of_ok built
  have packed := facts.packed
  have distinct : ((archiveFiles tools files request).map Prod.fst).Nodup := archiveFiles_distinct
  rw [facts.entries_eq] at packed ⊢
  rw [← readable_archiveFiles_iff]
  constructor
  · rintro ⟨_, read⟩
    exact ((readArchive_iff lawful distinct packed).mp read).1
  · intro readable
    exact ⟨verify_of_readable lawful facts readable bundle isReport same accepts
      acceptsVerification, (readArchive_iff lawful distinct packed).mpr ⟨readable, rfl⟩⟩

end Verified

/-! ## A sample -/

def sampleFloats : FloatFormat Unit where
  write := fun _ => text "0.5"
  read := fun _ => ()

/-- What an archive of the sample keeps of an entry. -/
def packedEntry (entry : Text × ByteArray) : List Nat × List Nat :=
  (entry.1.map Fin.val, entry.2.data.toList.map UInt8.toNat)

def unpackedEntry (numbers : List Nat × List Nat) : Text × ByteArray :=
  (numbers.1.map (Fin.ofNat 0x110000), ⟨(numbers.2.map UInt8.ofNat).toArray⟩)

theorem unpackedEntry_packedEntry (entry : Text × ByteArray) :
    unpackedEntry (packedEntry entry) = entry := by
  have name : (entry.1.map Fin.val).map (Fin.ofNat 0x110000) = entry.1 := by
    rw [List.map_map]
    exact List.map_id'' (fun point => Fin.ofNat_val_eq_self point) _
  have content : (entry.2.data.toList.map UInt8.toNat).map UInt8.ofNat = entry.2.data.toList := by
    rw [List.map_map]
    exact List.map_id'' (fun byte => UInt8.ofNat_toNat) _
  rw [unpackedEntry, packedEntry, name, content, Array.toArray_toList]

/-- The archive of the sample has as many bytes as the number of its entries says. -/
@[irreducible] def samplePack (entries : List (Text × ByteArray)) : Option ByteArray :=
  some ⟨Array.replicate (Encodable.encode (entries.map packedEntry)) 0⟩

@[irreducible] def sampleUnpack (bundle : ByteArray) : Option TarListing :=
  (Encodable.decode bundle.size : Option (List (List Nat × List Nat))).map fun numbers =>
    { members := numbers.map fun entry => regular (unpackedEntry entry), whole := true }

theorem sampleUnpack_samplePack
    {entries : List (Text × ByteArray)}
    {bundle : ByteArray}
    (packed : samplePack entries = some bundle) :
    sampleUnpack bundle = some { members := entries.map regular, whole := true } := by
  unfold samplePack at packed
  unfold sampleUnpack
  rw [← Option.some.inj packed, ByteArray.size, Array.size_replicate, Encodable.encodek,
    Option.map_some, List.map_map]
  refine congrArg (fun members => some (TarListing.mk members true)) ?_
  exact List.map_congr_left fun entry _ => congrArg regular (unpackedEntry_packedEntry entry)

def sampleDigest : Text :=
  text "5feceb66ffc86f38d952786c6d696c79c2dbc239dd4e91b46729d73a27fb57e9"

def sampleTools : Tools Unit where
  floats := sampleFloats
  sha256 := fun _ => sampleDigest
  decodeJson := decodeUtf8
  pack := samplePack
  unpack := sampleUnpack
  acceptsReport := fun _ => true
  acceptsVerification := fun _ => true
  validateUpgrade := fun _ _ => .ok ⟨⟩

theorem isDigest_sampleDigest : isDigest sampleDigest = true := by
  decide +kernel

theorem sampleFloats_lawful : sampleFloats.Lawful where
  read_write := fun _ => rfl
  written := by
    rintro ⟨⟩
    exact .inr ⟨{ integer := text "0", fraction := text ".5", exponent := [] },
      rfl, by decide, rfl⟩

theorem sampleTools_lawful : sampleTools.Lawful where
  floats := sampleFloats_lawful
  isDigest := fun _ => isDigest_sampleDigest
  decodeAscii := fun _ _ _ encoded => decodeUtf8_encodeUtf8 encoded
  unpack_pack := fun _ _ => sampleUnpack_samplePack


/-- The evidence of the sample's attestation. -/
def sampleEvidence (relativePath : Text) : Fields Unit :=
  [(text "path", .string relativePath), (text "sha256", .string sampleDigest)]

/-- The attestation of the sample, for one path of evidence. -/
def sampleAttestation (relativePath : Text) : Fields Unit :=
  [(text "schema_version", .string (text "1.0")), (text "status", .string (text "ready")),
    (text "target_release", .string (text "1.0.0")), (text "source_revision", .string (text "r1")),
    (text "contract_sha256", .string sampleDigest),
    (text "evidence", .array [.object (sampleEvidence relativePath)])]

/-- The file of an object. -/
def sampleContent (fields : Fields Unit) : ByteArray :=
  (encodeUtf8 (dumpsIndented sampleFloats (.object fields) ++ [10])).getD .empty

theorem loads_sampleContent
    {fields : Fields Unit}
    (wellFormed : WellFormed (.object fields))
    (joined : JoinedTexts (.object fields)) :
    (decodeUtf8 (sampleContent fields)).bind (loads sampleFloats) =
      some (.object (canonicalFields fields)) := by
  have loaded := loads_dumpsIndented sampleFloats_lawful wellFormed joined
  obtain ⟨bytes, isBytes⟩ := encodeUtf8_of_ascii (ascii_append.mpr
    ⟨ascii_dumpsIndented sampleFloats_lawful (.object fields), ascii_text "\n" (by decide)⟩)
  have isContent : sampleContent fields = bytes := congrArg (fun found => found.getD .empty) isBytes
  rw [canonical_object] at loaded
  rw [isContent, decodeUtf8_encodeUtf8 isBytes]
  exact loaded

/-- The attestation, and empty objects in the other files; there is no commerce evidence. -/
def sampleFiles (relativePath : Text) : Files where
  read := fun path => some (sampleContent
    (if path.tail = [text "attestation.json"] then sampleAttestation relativePath else []))
  resolve := some
  present := fun _ => false
  isFile := fun _ => true

def sampleRequest : BuildRequest where
  evidenceRoot := { root := text "/", tail := [text "evidence"] }
  attestationPath := { root := [], tail := [text "attestation.json"] }
  readinessContractPath := { root := [], tail := [text "readiness.json"] }
  controlPlaneContractPath := { root := [], tail := [text "control-plane.json"] }
  upgradeReportPath := { root := [], tail := [text "report.json"] }
  upgradePlanPath := { root := [], tail := [text "plan.json"] }
  sourceRevision := text "r1"

section

variable {relativePath : Text}

theorem keys_sampleAttestation (relativePath : Text) :
    (sampleAttestation relativePath).map Prod.fst =
      [text "schema_version", text "status", text "target_release", text "source_revision",
        text "contract_sha256", text "evidence"] := rfl

theorem sampleEvidence_distinct (relativePath : Text) :
    ((sampleEvidence relativePath).map Prod.fst).Nodup := by
  change [text "path", text "sha256"].Nodup
  decide

theorem sampleAttestation_distinct (relativePath : Text) :
    ((sampleAttestation relativePath).map Prod.fst).Nodup := by
  rw [keys_sampleAttestation]
  decide

theorem wellFormed_sampleAttestation (relativePath : Text) :
    WellFormed (.object (sampleAttestation relativePath)) := by
  have evidence : WellFormed (.object (sampleEvidence relativePath)) :=
    .object (sampleEvidence_distinct relativePath) (List.forall_mem_cons.mpr
      ⟨.string _, List.forall_mem_singleton.mpr (.string _)⟩)
  exact .object (sampleAttestation_distinct relativePath)
    (List.forall_mem_cons.mpr ⟨.string _, List.forall_mem_cons.mpr ⟨.string _,
      List.forall_mem_cons.mpr ⟨.string _, List.forall_mem_cons.mpr ⟨.string _,
        List.forall_mem_cons.mpr ⟨.string _, List.forall_mem_singleton.mpr
          (.array (List.forall_mem_singleton.mpr evidence))⟩⟩⟩⟩⟩)

theorem joinedTexts_sampleAttestation (joined : Joined relativePath) :
    JoinedTexts (.object (sampleAttestation relativePath)) := by
  have word : forall string : String, Joined (text string) :=
    fun string => joined_of_plain (plain_text string)
  have digest : Joined sampleDigest := word _
  have evidence : JoinedTexts (.object (sampleEvidence relativePath)) :=
    .object (List.forall_mem_cons.mpr ⟨word _, List.forall_mem_singleton.mpr (word _)⟩)
      (List.forall_mem_cons.mpr ⟨.string joined, List.forall_mem_singleton.mpr (.string digest)⟩)
  refine .object (fun entry member => ?_) ?_
  · have key : entry.1 ∈ (sampleAttestation relativePath).map Prod.fst := List.mem_map_of_mem member
    rw [keys_sampleAttestation] at key
    have each : forall name, name ∈ [text "schema_version", text "status", text "target_release",
        text "source_revision", text "contract_sha256", text "evidence"] -> Joined name := by
      simp only [List.forall_mem_cons, word, List.not_mem_nil, false_imp_iff, implies_true,
        and_self]
    exact each _ key
  · exact List.forall_mem_cons.mpr ⟨.string (word _), List.forall_mem_cons.mpr ⟨.string (word _),
      List.forall_mem_cons.mpr ⟨.string (word _), List.forall_mem_cons.mpr ⟨.string (word _),
        List.forall_mem_cons.mpr ⟨.string digest, List.forall_mem_singleton.mpr
          (.array (List.forall_mem_singleton.mpr evidence))⟩⟩⟩⟩⟩

theorem loadObject_sampleAttestation (joined : Joined relativePath) :
    loadObject sampleTools (sampleFiles relativePath) sampleRequest.attestationPath
        "release readiness attestation" =
      .ok (canonicalFields (sampleAttestation relativePath)) := by
  exact loadObject_of rfl (loads_sampleContent (wellFormed_sampleAttestation relativePath)
    (joinedTexts_sampleAttestation joined))

theorem lookup_sampleAttestation (relativePath key : Text) :
    (canonicalFields (sampleAttestation relativePath)).lookup key =
      ((sampleAttestation relativePath).lookup key).map canonical :=
  lookup_canonicalFields (sampleAttestation_distinct relativePath) key

theorem checkAttestation_sample (relativePath : Text) :
    checkAttestation sampleTools (sampleFiles relativePath) sampleRequest
      (canonicalFields (sampleAttestation relativePath)) = .ok () := by
  have field := lookup_sampleAttestation relativePath
  have schemaVersion : (canonicalFields (sampleAttestation relativePath)).lookup
      (text "schema_version") = some (.string (text "1.0")) := field _
  have status : (canonicalFields (sampleAttestation relativePath)).lookup (text "status") =
      some (.string (text "ready")) := field _
  have targetRelease : (canonicalFields (sampleAttestation relativePath)).lookup
      (text "target_release") = some (.string (text "1.0.0")) := field _
  have revision : (canonicalFields (sampleAttestation relativePath)).lookup
      (text "source_revision") = some (.string sampleRequest.sourceRevision) := field _
  have contract : (canonicalFields (sampleAttestation relativePath)).lookup
      (text "contract_sha256") = some (.string sampleDigest) := field _
  have read : readBytes (sampleFiles relativePath) sampleRequest.readinessContractPath =
      .ok (sampleContent []) := rfl
  have digest : normalizedTextDigest sampleTools (sampleContent []) = sampleDigest := rfl
  rw [checkAttestation, schemaVersion, status, targetRelease, revision, contract,
    reject_bind_of_not (not_not.mpr ⟨isText_self _, isText_self _, isText_self _⟩),
    reject_bind_of_not (isText_ne_false _), read, ok_bind, digest]
  exact reject_eq_ok_iff.mpr (isText_ne_false _)

theorem lookup_sampleEvidence (relativePath : Text) :
    (canonicalFields (sampleAttestation relativePath)).lookup (text "evidence") =
      some (.array [.object (canonicalFields (sampleEvidence relativePath))]) := by
  have array : canonical (.array [.object (sampleEvidence relativePath)]) =
      .array [.object (canonicalFields (sampleEvidence relativePath))] := by
    rw [canonical_array, List.map_singleton, canonical_object]
  rw [lookup_sampleAttestation, ← array]
  rfl

theorem samplePath (relativePath : Text) :
    (canonicalFields (sampleEvidence relativePath)).lookup (text "path") =
      some (.string relativePath) :=
  lookup_canonicalFields (sampleEvidence_distinct relativePath) _

theorem evidencePaths_sample (joined : Joined relativePath) :
    evidencePaths (attestationOf sampleTools (sampleFiles relativePath) sampleRequest) =
      [relativePath] := by
  rw [attestationOf, loadObject_sampleAttestation joined]
  dsimp only
  rw [evidencePaths, lookup_sampleEvidence]
  dsimp only
  rw [List.filterMap_cons, evidencePath, samplePath]
  rfl

theorem samplePack_isSome (entries : List (Text × ByteArray)) :
    Exists fun bundle => samplePack entries = some bundle := by
  unfold samplePack
  exact ⟨_, rfl⟩

theorem exists_of_toBool {Result : Type} {outcome : Except String Result}
    (returned : outcome.toBool = true) : Exists fun result => outcome = .ok result := by
  cases outcome with
  | error problem => exact absurd returned Bool.false_ne_true
  | ok result => exact ⟨result, rfl⟩

theorem resolveBelow_commerce (relativePath : Text) (commerce : CommercePath)
    (member : commerce ∈ commercePaths) :
    Exists fun path => resolveBelow (sampleFiles relativePath) sampleRequest.evidenceRoot
      (text commerce.path) = .ok path := by
  have each : (commercePaths.all fun commerce => (resolveBelow (sampleFiles [])
      sampleRequest.evidenceRoot (text commerce.path)).toBool) = true := by
    decide +kernel
  exact exists_of_toBool (List.all_eq_true.mp each commerce member)

/-- The sample is built when the path of its evidence stays below the root. -/
theorem sample_built
    (joined : Joined relativePath)
    (below : Exists fun path =>
      resolveBelow (sampleFiles relativePath) sampleRequest.evidenceRoot relativePath = .ok path) :
    Exists fun candidate =>
      buildReleaseCandidate sampleTools (sampleFiles relativePath) sampleRequest =
        .ok candidate := by
  obtain ⟨path, resolved⟩ := below
  have hasRevision : stripPoints sampleRequest.sourceRevision ≠ [] := by decide
  obtain ⟨documents, areDocuments⟩ : Exists fun documents =>
      sampleRequest.documents.mapM (packDocument (sampleFiles relativePath)) = .ok documents :=
    mapM_returns_iff.mpr fun document _ => ⟨_, rfl⟩
  have isEvidence : evidenceOf (canonicalFields (sampleAttestation relativePath)) =
      .ok [.object (canonicalFields (sampleEvidence relativePath))] := by
    rw [evidenceOf, lookup_sampleEvidence]
  obtain ⟨evidence, areEvidence⟩ : Exists fun evidence =>
      [Document.object (canonicalFields (sampleEvidence relativePath))].mapM
        (packEvidence sampleTools (sampleFiles relativePath) sampleRequest.evidenceRoot) =
          .ok evidence := by
    refine mapM_returns_iff.mpr (List.forall_mem_singleton.mpr ?_)
    have digest : (canonicalFields (sampleEvidence relativePath)).lookup (text "sha256") =
        some (.string sampleDigest) :=
      lookup_canonicalFields (sampleEvidence_distinct relativePath) _
    rw [packEvidence, samplePath, digest]
    dsimp only
    have read : readBytes (sampleFiles relativePath) path =
        .ok (sampleContent (if path.tail = [text "attestation.json"] then
          sampleAttestation relativePath else [])) := rfl
    rw [resolved, ok_bind, read, ok_bind]
    exact ⟨_, reject_bind_of_not (not_not.mpr rfl)⟩
  obtain ⟨commerce, areCommerce⟩ : Exists fun commerce => commercePaths.mapM
      (packCommerce sampleTools (sampleFiles relativePath) sampleRequest.evidenceRoot) =
        .ok commerce := by
    refine mapM_returns_iff.mpr fun directory member => ?_
    obtain ⟨root, resolved⟩ := resolveBelow_commerce relativePath directory member
    rw [packCommerce, resolved, ok_bind]
    exact ⟨[], if_pos rfl⟩
  have upgraded : checkUpgrade sampleTools (sampleFiles relativePath) sampleRequest = .ok ⟨⟩ := by
    have loaded : loadObject sampleTools (sampleFiles relativePath)
        sampleRequest.upgradeReportPath "Trino upgrade report" = .ok (canonicalFields []) :=
      loadObject_of rfl (loads_sampleContent (.object List.nodup_nil (List.forall_mem_nil _))
        (.object (List.forall_mem_nil _) (List.forall_mem_nil _)))
    rw [checkUpgrade, loaded, ok_bind]
    rfl
  obtain ⟨manifest, isManifest⟩ := manifestContent_isSome sampleTools_lawful
    sampleRequest.sourceRevision (dictOf (documents ++ evidence ++ commerce.flatten))
  obtain ⟨bundle, isBundle⟩ := samplePack_isSome (sortEntries (dictOf (dictOf
    (documents ++ evidence ++ commerce.flatten) ++ [(text "manifest.json", manifest)])))
  rw [buildReleaseCandidate, reject_bind_of_not hasRevision, loadObject_sampleAttestation joined,
    ok_bind, checkAttestation_sample, ok_bind, areDocuments, ok_bind, isEvidence, ok_bind,
    areEvidence, ok_bind, areCommerce, ok_bind, upgraded, ok_bind]
  dsimp only
  rw [isManifest]
  dsimp only
  have packed : sampleTools.pack (sortEntries (dictOf (dictOf
      (documents ++ evidence ++ commerce.flatten) ++ [(text "manifest.json", manifest)]))) =
        some bundle := isBundle
  rw [packed]
  dsimp only
  exact ⟨_, reject_bind_of_not Bool.noConfusion⟩

/-- The files after the build: the archive, and the report in every other file. -/
def sampleLater (candidate : Candidate Unit) : Files where
  read := fun path => some
    (if path.tail = [text "bundle"] then candidate.bundle else sampleContent candidate.report)
  resolve := some
  present := fun _ => true
  isFile := fun _ => true

def sampleBundlePath : PosixPath where
  root := []
  tail := [text "bundle"]

def sampleReportPath : PosixPath where
  root := []
  tail := [text "candidate.json"]

theorem sampleReport_loads
    {candidate : Candidate Unit}
    (built : Built sampleTools (sampleFiles relativePath) sampleRequest candidate) :
    loadObject sampleTools (sampleLater candidate) sampleReportPath "release candidate report" =
        .ok (canonicalFields candidate.report) ∧
      (canonicalFields candidate.report).Perm candidate.report := by
  have word : forall string : String, Joined (text string) :=
    fun string => joined_of_plain (plain_text string)
  have isReport := built.report
  generalize candidate.entries.length = count at isReport
  have keys : candidate.report.map Prod.fst = [text "schema_version", text "status",
      text "target_release", text "source_revision", text "entries", text "bundle_sha256"] := by
    rw [isReport, keys_reportOf]
  have wellFormed : WellFormed (.object candidate.report) := by
    refine .object (by rw [keys]; decide) ?_
    rw [isReport]
    exact List.forall_mem_cons.mpr ⟨.string _, List.forall_mem_cons.mpr ⟨.string _,
      List.forall_mem_cons.mpr ⟨.string _, List.forall_mem_cons.mpr ⟨.string _,
        List.forall_mem_cons.mpr ⟨.int _, List.forall_mem_singleton.mpr (.string _)⟩⟩⟩⟩⟩
  have joined : JoinedTexts (.object candidate.report) := by
    refine .object (fun entry member => ?_) ?_
    · have key : entry.1 ∈ candidate.report.map Prod.fst := List.mem_map_of_mem member
      rw [keys] at key
      have each : forall name, name ∈ [text "schema_version", text "status",
          text "target_release", text "source_revision", text "entries", text "bundle_sha256"] ->
            Joined name := by
        simp only [List.forall_mem_cons, word, List.not_mem_nil, false_imp_iff, implies_true,
          and_self]
      exact each _ key
    · rw [isReport]
      exact List.forall_mem_cons.mpr ⟨.string (word _), List.forall_mem_cons.mpr
        ⟨.string (word _), List.forall_mem_cons.mpr ⟨.string (word _), List.forall_mem_cons.mpr
          ⟨.string (word _), List.forall_mem_cons.mpr ⟨.int _,
            List.forall_mem_singleton.mpr (.string (word _))⟩⟩⟩⟩⟩
  have same : candidate.report.map (fun entry => (entry.1, canonical entry.2)) =
      candidate.report := by
    rw [isReport]
    rfl
  refine ⟨loadObject_of rfl (loads_sampleContent wellFormed joined), ?_⟩
  rw [canonicalFields, same]
  exact sortEntries_perm _

end

theorem joined_text (string : String) : Joined (text string) :=
  joined_of_plain (plain_text string)

theorem sample_below :
    (Exists fun path => resolveBelow (sampleFiles (text "a.json")) sampleRequest.evidenceRoot
        (text "a.json") = .ok path) ∧
      Exists fun path => resolveBelow (sampleFiles (text "./a.json")) sampleRequest.evidenceRoot
        (text "./a.json") = .ok path :=
  ⟨exists_of_toBool (by decide +kernel), exists_of_toBool (by decide +kernel)⟩

/-- The candidate with a plainly spelled path of evidence is verified exactly when it is
within the bounds. -/
theorem sample_verifies :
    Exists fun candidate =>
      buildReleaseCandidate sampleTools (sampleFiles (text "a.json")) sampleRequest =
          .ok candidate ∧
        (((Exists fun verification =>
            verifyReleaseCandidate sampleTools (sampleLater candidate) sampleBundlePath
              sampleReportPath sampleRequest.sourceRevision = .ok verification) ∧
          readArchive sampleTools candidate.bundle = .ok (sortEntries candidate.entries)) ↔
          Verifiable sampleTools (sampleFiles (text "a.json")) sampleRequest) := by
  obtain ⟨candidate, built⟩ := sample_built (joined_text "a.json") sample_below.1
  obtain ⟨isReport, same⟩ := sampleReport_loads (built_of_ok built)
  exact ⟨candidate, built, built_verifies_iff sampleTools_lawful built rfl isReport same rfl
    fun _ _ => rfl⟩

/-- A candidate with the path `./a.json` in its evidence is built, and its archive is not
read. -/
theorem dotted_candidate_not_read :
    ¬(forall (tools : Tools Unit) (files later : Files) (request : BuildRequest)
        (candidate : Candidate Unit) (report : Fields Unit) (bundlePath reportPath : PosixPath),
      tools.Lawful ->
      buildReleaseCandidate tools files request = .ok candidate ->
      later.read bundlePath = some candidate.bundle ->
      loadObject tools later reportPath "release candidate report" = .ok report ->
      report.Perm candidate.report ->
      tools.acceptsReport report = true ->
      (forall reportContent manifest, tools.acceptsVerification
        (verificationOf tools report candidate.bundle reportContent manifest) = true) ->
      (Exists fun verification =>
        verifyReleaseCandidate tools later bundlePath reportPath request.sourceRevision =
          .ok verification) ∧
      readArchive tools candidate.bundle = .ok (sortEntries candidate.entries)) := by
  intro always
  obtain ⟨candidate, built⟩ := sample_built (joined_text "./a.json") sample_below.2
  have facts := built_of_ok built
  obtain ⟨isReport, same⟩ := sampleReport_loads facts
  have read := (always sampleTools (sampleFiles (text "./a.json")) (sampleLater candidate)
    sampleRequest candidate _ sampleBundlePath sampleReportPath sampleTools_lawful built rfl
    isReport same rfl fun _ _ => rfl).2
  have packed := facts.packed
  rw [facts.entries_eq] at read packed
  have readable := ((readArchive_iff sampleTools_lawful archiveFiles_distinct packed).mp read).1
  have spelled := (readable_archiveFiles_iff.mp readable).spelled
  rw [evidencePaths_sample (joined_text "./a.json"), List.forall_mem_singleton] at spelled
  have unsafeName : (validateArchivePath (evidenceName (text "./a.json"))).toBool = false := by
    decide +kernel
  rw [spelled] at unsafeName
  exact absurd unsafeName Bool.noConfusion

end ReleaseCandidate
end Release
end LakehouseOps
