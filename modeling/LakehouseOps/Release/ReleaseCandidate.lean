import LakehouseOps.Library.Fallible
import LakehouseOps.Library.JsonIndent
import LakehouseOps.Library.PosixPath

/-!
# Release candidates

The archive of a release candidate: what the builder packs, and what the verifier wants of
an archive and its report. An error of a file or of a JSON text is known by its label only.
-/

namespace LakehouseOps
namespace Release
namespace ReleaseCandidate

open Library Library.Fallible Library.Document

variable {Double : Type}

/-! ## Files and tools -/

/-- What can be asked of a file system. -/
structure Files where
  /-- `path.read_bytes()`, unless it raises. -/
  read : PosixPath -> Option ByteArray
  /-- `path.resolve()`, unless it raises. -/
  resolve : PosixPath -> Option PosixPath
  /-- `path.exists()` -/
  present : PosixPath -> Bool
  isFile : PosixPath -> Bool

/-- The entries of a JSON object. -/
abbrev Fields (Double : Type) := List (Text × Document Double)

/-- A member of an archive. -/
structure TarMember where
  name : Text
  isFile : Bool
  size : Nat
  /-- `extractfile`, unless there is nothing to extract. -/
  content : Option ByteArray

/-- The members of an archive up to where reading ends. -/
structure TarListing where
  members : List TarMember
  /-- Whether reading ends without an error. -/
  whole : Bool

/-- What the code calls: digests, archives, schemas and the evidence of the upgrade. -/
structure Tools (Double : Type) where
  floats : FloatFormat Double
  /-- `hashlib.sha256(content).hexdigest()` -/
  sha256 : ByteArray -> Text
  /-- The text of the bytes that `json.loads` is given. -/
  decodeJson : ByteArray -> Option Text
  /-- The compressed archive of the entries, unless an entry does not fit the format. -/
  pack : List (Text × ByteArray) -> Option ByteArray
  /-- `tarfile.open`, and the iteration over the archive. -/
  unpack : ByteArray -> Option TarListing
  /-- `validate_report_schema` with the schema of the report. -/
  acceptsReport : Fields Double -> Bool
  acceptsVerification : Fields Double -> Bool
  /-- `load_upgrade_plan` and `validate_upgrade_report`, of a report and the plan's file. -/
  validateUpgrade : Fields Double -> Option ByteArray -> Except String PUnit

/-- A text in the text of an error. -/
def shown (points : Text) : String :=
  String.ofList (points.map fun point => Char.ofNat point.val)

/-- Whether a field is the given text. -/
def isText (field : Option (Document Double)) (expected : Text) : Bool :=
  match field with
  | some (.string value) => value = expected
  | _ => false

/-- Whether a field is the given count. -/
def isCount (field : Option (Document Double)) (expected : Nat) : Bool :=
  match field with
  | some (.int value) => value = expected
  | _ => false

/-- `_read_bytes` -/
def readBytes (files : Files) (path : PosixPath) : Except String ByteArray :=
  match files.read path with
  | some content => .ok content
  | none => .error ("cannot read " ++ shown path.asPosix)

/-- The object that a text loads to. -/
def objectOf
    (tools : Tools Double)
    (label : String)
    (points : Option Text) : Except String (Fields Double) :=
  match points.bind (loads tools.floats) with
  | none => .error ("cannot load " ++ label)
  | some (.object fields) => .ok fields
  | some _ => .error (label ++ " must be a JSON object")

/-- `_load_object` -/
def loadObject
    (tools : Tools Double)
    (files : Files)
    (path : PosixPath)
    (label : String) : Except String (Fields Double) :=
  objectOf tools label ((files.read path).bind decodeUtf8)

/-- `_load_json_bytes` -/
def loadJsonBytes
    (tools : Tools Double)
    (content : ByteArray)
    (label : String) : Except String (Fields Double) :=
  objectOf tools label (tools.decodeJson content)

/-- `_resolve_below` -/
def resolveBelow
    (files : Files)
    (root : PosixPath)
    (relativePath : Text) : Except String PosixPath := do
  let relative := PosixPath.ofText relativePath
  reject (relative.root ≠ [] ∨ text ".." ∈ relative.parts)
    ("evidence path must remain below root: " ++ shown relativePath)
  match files.resolve root with
  | none => .error ("cannot resolve " ++ shown root.asPosix)
  | some root =>
      match files.resolve { root := root.root, tail := root.tail ++ relative.tail } with
      | none => .error ("cannot resolve " ++ shown relativePath)
      | some path => do
          reject (¬(root.root = path.root ∧ root.tail.length < path.tail.length ∧
              root.tail <+: path.tail))
            ("evidence path escapes root: " ++ shown relativePath)
          return path

/-! ## Building -/

/-- `content.replace(b"\r\n", b"\n")` -/
def withoutReturns : List UInt8 -> List UInt8
  | [] => []
  | byte :: rest =>
      if byte = 13 ∧ rest.head? = some 10 then withoutReturns rest
      else byte :: withoutReturns rest

/-- `normalized_text_digest` of a file's content. -/
def normalizedTextDigest (tools : Tools Double) (content : ByteArray) : Text :=
  tools.sha256 ⟨(withoutReturns content.data.toList).toArray⟩

/-- The arguments of the builder. -/
structure BuildRequest where
  evidenceRoot : PosixPath
  attestationPath : PosixPath
  readinessContractPath : PosixPath
  controlPlaneContractPath : PosixPath
  upgradeReportPath : PosixPath
  upgradePlanPath : PosixPath
  sourceRevision : Text

/-- The members that every archive has. -/
def BuildRequest.documents (request : BuildRequest) : List (Text × PosixPath) :=
  [(text "attestation/release-readiness.json", request.attestationPath),
    (text "contracts/readiness-contract.json", request.readinessContractPath),
    (text "contracts/control-plane-contract.json", request.controlPlaneContractPath),
    (text "upgrade/upgrade-plan.json", request.upgradePlanPath),
    (text "upgrade/trino-upgrade-rehearsal.json", request.upgradeReportPath)]

/-- The name of the member for a path below the evidence root. -/
def evidenceName (relativePath : Text) : Text :=
  text "evidence/" ++ relativePath

def packDocument (files : Files) (document : Text × PosixPath) :
    Except String (Text × ByteArray) := do
  let content <- readBytes files document.2
  return (document.1, content)

/-- An entry of the attestation's evidence. -/
def packEvidence
    (tools : Tools Double)
    (files : Files)
    (root : PosixPath)
    (entry : Document Double) : Except String (Text × ByteArray) :=
  match entry with
  | .object fields =>
      match fields.lookup (text "path"), fields.lookup (text "sha256") with
      | some (.string relativePath), some (.string expectedDigest) => do
          let path <- resolveBelow files root relativePath
          let content <- readBytes files path
          reject (tools.sha256 content ≠ expectedDigest)
            ("evidence digest changed: " ++ shown relativePath)
          return (evidenceName relativePath, content)
      | _, _ => .error "attestation evidence fields are invalid"
  | _ => .error "attestation evidence entry must be an object"

/-- The evidence of an attestation. -/
def evidenceOf (attestation : Fields Double) : Except String (List (Document Double)) :=
  match attestation.lookup (text "evidence") with
  | some (.array (first :: rest)) => .ok (first :: rest)
  | _ => .error "attestation evidence must be a non-empty array"

/-- A directory of commerce evidence, with the statuses that its report must have. -/
structure CommercePath where
  path : String
  expected : List (String × String)

/-- `commerce_paths` -/
def commercePaths : List CommercePath :=
  [{ path := "serving-evidence/commerce-history-correction-ci/acceptance"
     expected :=
      [("late_customer_correction", "ready"), ("late_batch_completion", "ready"),
        ("late_batch_recovery", "ready"), ("next_batch_after_correction", "ready"),
        ("idle_after_correction", "idle"), ("idle_after_next_batch", "idle")] },
    { path := "serving-evidence/commerce-inflight-ci/acceptance"
      expected := [("inflight_recovery", "ready")] }]

def CommercePath.inflight (commerce : CommercePath) : Prop :=
  "inflight_recovery" ∈ commerce.expected.map Prod.fst

instance instDecidableInflight (commerce : CommercePath) : Decidable commerce.inflight :=
  inferInstanceAs (Decidable (_ ∈ _))

/-- The paths of the files of a directory, below the evidence root. -/
def CommercePath.members (commerce : CommercePath) : List Text :=
  (["linked.json", "checkpoint.json", "run-journal.sqlite3"] ++
    if commerce.inflight then ["scenario/expected.json"] else []).map fun name =>
      text (commerce.path ++ "/" ++ name)

def packCommerceMember (files : Files) (root : PosixPath) (relativePath : Text) :
    Except String (Text × ByteArray) := do
  let path <- resolveBelow files root relativePath
  reject (files.isFile path = false) ("commerce evidence is missing: " ++ shown relativePath)
  let content <- readBytes files path
  return (evidenceName relativePath, content)

/-- Whether a field is an object with the given status. -/
def hasStatus (field : Option (Document Double)) (status : String) : Bool :=
  match field with
  | some (.object fields) => isText (fields.lookup (text "status")) (text status)
  | _ => false

/-- Whether the attempts have the statuses of the in-flight recovery. -/
def attemptsComplete (field : Option (Document Double)) : Bool :=
  match field with
  | some (.array attempts) =>
      attempts.length = 5 &&
        (attempts.zip ["ready", "injected_failure", "ready", "ready", "ready"]).all fun attempt =>
          hasStatus (some attempt.1) attempt.2
  | _ => false

/-- The checks of a commerce report. -/
def checkCommerce (commerce : CommercePath) (report : Fields Double) : Except String Unit := do
  reject (isText (report.lookup (text "status")) (text "ready") = false ∨
      (commerce.expected.all fun expected =>
        hasStatus (report.lookup (text expected.1)) expected.2) = false)
    "commerce evidence does not contain the complete recovery path"
  match report.lookup (text "inflight_recovery") with
  | some (.object recovery) =>
      reject (commerce.inflight ∧
          ¬(hasStatus (recovery.lookup (text "idle")) "idle" = true ∧
            attemptsComplete (recovery.lookup (text "attempts")) = true))
        "commerce evidence does not contain the complete in-flight retry/idle path"
  | _ => .ok ()

/-- The members of a directory of commerce evidence, if it is there. -/
def packCommerce
    (tools : Tools Double)
    (files : Files)
    (root : PosixPath)
    (commerce : CommercePath) : Except String (List (Text × ByteArray)) := do
  let commerceRoot <- resolveBelow files root (text commerce.path)
  if files.present commerceRoot = false then return []
  else do
    let members <- commerce.members.mapM (packCommerceMember files root)
    let linked := members.lookup (evidenceName (text (commerce.path ++ "/linked.json")))
    let report <- loadJsonBytes tools (linked.getD .empty) "commerce evidence"
    checkCommerce commerce report
    return members

/-- The checks of the attestation before anything is packed. -/
def checkAttestation
    (tools : Tools Double)
    (files : Files)
    (request : BuildRequest)
    (attestation : Fields Double) : Except String Unit := do
  reject (¬(isText (attestation.lookup (text "schema_version")) (text "1.0") = true ∧
      isText (attestation.lookup (text "status")) (text "ready") = true ∧
      isText (attestation.lookup (text "target_release")) (text "1.0.0") = true))
    "release readiness attestation is not ready"
  reject (isText (attestation.lookup (text "source_revision")) request.sourceRevision = false)
    "attestation source revision does not match checkout"
  let contract <- readBytes files request.readinessContractPath
  reject (isText (attestation.lookup (text "contract_sha256"))
      (normalizedTextDigest tools contract) = false)
    "readiness contract digest does not match attestation"

/-- The upgrade evidence; every error in it gets one text. -/
def checkUpgrade
    (tools : Tools Double)
    (files : Files)
    (request : BuildRequest) : Except String PUnit :=
  match (do
      let report <- loadObject tools files request.upgradeReportPath "Trino upgrade report"
      tools.validateUpgrade report (files.read request.upgradePlanPath)) with
  | .ok _ => .ok ⟨⟩
  | .error problem => .error ("upgrade and rollback evidence is invalid: " ++ problem)

/-- The fields of a member in the manifest. -/
def entryFields (tools : Tools Double) (entry : Text × ByteArray) : Fields Double :=
  [(text "path", .string entry.1), (text "sha256", .string (tools.sha256 entry.2))]

/-- The manifest of an archive. -/
def manifestFields
    (tools : Tools Double)
    (sourceRevision : Text)
    (entries : List (Text × ByteArray)) : Fields Double :=
  [(text "schema_version", .string (text "1.0")),
    (text "status", .string (text "ready")),
    (text "target_release", .string (text "1.0.0")),
    (text "source_revision", .string sourceRevision),
    (text "entries", .array ((sortEntries entries).map fun entry =>
      .object (entryFields tools entry)))]

/-- The content of `manifest.json`. -/
def manifestContent
    (tools : Tools Double)
    (sourceRevision : Text)
    (entries : List (Text × ByteArray)) : Option ByteArray :=
  encodeUtf8
    (dumpsIndented tools.floats (.object (manifestFields tools sourceRevision entries)) ++ [10])

/-- The report of a built archive. -/
def reportOf
    (tools : Tools Double)
    (sourceRevision : Text)
    (count : Nat)
    (bundle : ByteArray) : Fields Double :=
  [(text "schema_version", .string (text "1.0")),
    (text "status", .string (text "ready")),
    (text "target_release", .string (text "1.0.0")),
    (text "source_revision", .string sourceRevision),
    (text "entries", .int count),
    (text "bundle_sha256", .string (tools.sha256 bundle))]

/-- A built candidate: its report, the entries of its archive, and the archive. -/
structure Candidate (Double : Type) where
  report : Fields Double
  entries : List (Text × ByteArray)
  bundle : ByteArray

/-- `build_release_candidate`. A dictionary is the list of its assignments. -/
def buildReleaseCandidate
    (tools : Tools Double)
    (files : Files)
    (request : BuildRequest) : Except String (Candidate Double) := do
  reject (stripPoints request.sourceRevision = []) "source revision must be non-empty"
  let attestation <- loadObject tools files request.attestationPath "release readiness attestation"
  checkAttestation tools files request attestation
  let documents <- request.documents.mapM (packDocument files)
  let evidence <- evidenceOf attestation
  let evidenceMembers <- evidence.mapM (packEvidence tools files request.evidenceRoot)
  let commerceMembers <- commercePaths.mapM (packCommerce tools files request.evidenceRoot)
  checkUpgrade tools files request
  let members := dictOf (documents ++ evidenceMembers ++ commerceMembers.flatten)
  match manifestContent tools request.sourceRevision members with
  | none => .error "the manifest cannot be encoded"
  | some manifest =>
      let entries := dictOf (members ++ [(text "manifest.json", manifest)])
      match tools.pack (sortEntries entries) with
      | none => .error "the archive cannot be written"
      | some bundle => do
          let report := reportOf tools request.sourceRevision entries.length bundle
          reject (tools.acceptsReport report = false) "report schema validation failed"
          return { report, entries, bundle }

/-! ## Verifying -/

def maxArchiveMembers : Nat := 256

def maxMemberBytes : Nat := 64 * 1024 * 1024

def maxArchiveBytes : Nat := 256 * 1024 * 1024

/-- `_validate_archive_path` -/
def validateArchivePath (name : Text) : Except String Unit :=
  let path := PosixPath.ofText name
  reject (name = [] ∨ char '\\' ∈ name ∨ path.root ≠ [] ∨ text "." ∈ path.parts ∨
      text ".." ∈ path.parts ∨ path.asPosix ≠ name)
    ("archive member path is unsafe: " ++ shown name)

/-- The loop of `_read_archive`, with the members and the size of those before. -/
def readMembers :
    List TarMember -> List (Text × ByteArray) -> Nat -> Except String (List (Text × ByteArray))
  | [], members, _ => .ok members
  | info :: rest, members, totalSize => do
      reject (maxArchiveMembers ≤ members.length) "archive has too many members"
      validateArchivePath info.name
      reject (info.name ∈ members.map Prod.fst) ("duplicate archive member: " ++ shown info.name)
      reject (info.isFile = false)
        ("archive member must be a regular file: " ++ shown info.name)
      reject (maxMemberBytes < info.size) ("archive member is too large: " ++ shown info.name)
      reject (maxArchiveBytes < totalSize + info.size) "archive expands beyond the size limit"
      match info.content with
      | none => .error ("cannot read archive member: " ++ shown info.name)
      | some source => do
          let content := source.extract 0 (maxMemberBytes + 1)
          reject (content.size ≠ info.size)
            ("archive member size is invalid: " ++ shown info.name)
          readMembers rest (members ++ [(info.name, content)]) (totalSize + info.size)

/-- `_read_archive` -/
def readArchive (tools : Tools Double) (bundle : ByteArray) :
    Except String (List (Text × ByteArray)) :=
  match tools.unpack bundle with
  | none => .error "cannot read release candidate archive"
  | some listing => do
      let members <- readMembers listing.members [] 0
      reject (listing.whole = false) "cannot read release candidate archive"
      return members

/-- Sixty-four hexadecimal digits. -/
def isDigest (points : Text) : Bool :=
  points.length = 64 && points.all fun point => point ∈ text "0123456789abcdef"

/-- One entry of the manifest, after those that are verified. -/
def validateEntry (entry : Document Double) (verified : List (Text × Text)) :
    Except String (List (Text × Text)) :=
  match entry with
  | .object fields => do
      reject (¬(fields.map Prod.fst).Perm [text "path", text "sha256"])
        "archive manifest entry fields are invalid"
      match fields.lookup (text "path"), fields.lookup (text "sha256") with
      | some (.string name), some (.string digest) => do
          validateArchivePath name
          reject (name = text "manifest.json" ∨ name ∈ verified.map Prod.fst)
            ("duplicate archive manifest entry: " ++ shown name)
          reject (isDigest digest = false)
            ("archive manifest digest is invalid: " ++ shown name)
          return verified ++ [(name, digest)]
      | _, _ => .error "archive manifest entry values are invalid"
  | _ => .error "archive manifest entry fields are invalid"

/-- The loop over the entries of the manifest. -/
def validateEntries :
    List (Document Double) -> List (Text × Text) -> Except String (List (Text × Text))
  | [], verified => .ok verified
  | entry :: rest, verified => do
      let verified <- validateEntry entry verified
      validateEntries rest verified

/-- `_validate_manifest`; a loaded object has each key once. -/
def validateManifest (manifest : Fields Double) (sourceRevision : Text) :
    Except String (List (Text × Text)) := do
  reject (¬(manifest.map Prod.fst).Perm
      [text "schema_version", text "status", text "target_release", text "source_revision",
        text "entries"])
    "archive manifest fields are invalid"
  reject (¬(isText (manifest.lookup (text "schema_version")) (text "1.0") = true ∧
      isText (manifest.lookup (text "status")) (text "ready") = true ∧
      isText (manifest.lookup (text "target_release")) (text "1.0.0") = true ∧
      isText (manifest.lookup (text "source_revision")) sourceRevision = true))
    "archive manifest identity is invalid"
  match manifest.lookup (text "entries") with
  | some (.array (first :: rest)) => validateEntries (first :: rest) []
  | _ => .error "archive manifest entries must be a non-empty array"

/-- The report of a verified archive; fields of the report are taken as they are. -/
def verificationOf
    (tools : Tools Double)
    (report : Fields Double)
    (bundle reportContent manifest : ByteArray) : Fields Double :=
  [(text "schema_version", .string (text "1.0")),
    (text "status", .string (text "verified")),
    (text "target_release", (report.lookup (text "target_release")).getD .null),
    (text "source_revision", (report.lookup (text "source_revision")).getD .null),
    (text "entries", (report.lookup (text "entries")).getD .null),
    (text "bundle_sha256", .string (tools.sha256 bundle)),
    (text "report_sha256", .string (tools.sha256 reportContent)),
    (text "manifest_sha256", .string (tools.sha256 manifest))]

/-- The comparison of the members with the manifest. -/
def checkMembers
    (tools : Tools Double)
    (report : Fields Double)
    (members : List (Text × ByteArray))
    (manifestEntries : List (Text × Text)) : Except String Unit := do
  reject (isCount (report.lookup (text "entries")) (members.length + 1) = false)
    "archive entry count does not match report"
  reject (¬((members.map Prod.fst) ⊆ manifestEntries.map Prod.fst ∧
      (manifestEntries.map Prod.fst) ⊆ members.map Prod.fst))
    "archive membership does not match manifest"
  manifestEntries.forM fun entry =>
    reject ((members.lookup entry.1).map tools.sha256 ≠ some entry.2)
      ("archive member digest does not match manifest: " ++ shown entry.1)

/-- `verify_release_candidate` -/
def verifyReleaseCandidate
    (tools : Tools Double)
    (files : Files)
    (bundlePath reportPath : PosixPath)
    (expectedSourceRevision : Text) : Except String (Fields Double) := do
  reject (stripPoints expectedSourceRevision = []) "expected source revision must be non-empty"
  let report <- loadObject tools files reportPath "release candidate report"
  reject (tools.acceptsReport report = false) "report schema validation failed"
  reject (isText (report.lookup (text "source_revision")) expectedSourceRevision = false)
    "source revision does not match expected revision"
  let bundle <- readBytes files bundlePath
  reject (isText (report.lookup (text "bundle_sha256")) (tools.sha256 bundle) = false)
    "bundle digest does not match report"
  let members <- readArchive tools bundle
  match members.lookup (text "manifest.json") with
  | none => .error "archive manifest is missing"
  | some manifestBytes => do
      let others := members.filter fun member => member.1 ≠ text "manifest.json"
      let manifest <- loadJsonBytes tools manifestBytes "archive manifest"
      let manifestEntries <- validateManifest manifest expectedSourceRevision
      checkMembers tools report others manifestEntries
      let reportContent <- readBytes files reportPath
      let verification := verificationOf tools report bundle reportContent manifestBytes
      reject (tools.acceptsVerification verification = false) "report schema validation failed"
      return verification

end ReleaseCandidate
end Release
end LakehouseOps
