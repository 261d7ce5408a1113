import LakehouseOps.Release.ReleaseCandidate

/-!
# The image lock

The references to images in Compose and Docker files, and their check against the lock. A
Compose file is read line by line, so what counts is which lines are taken for a reference.
-/

namespace LakehouseOps
namespace Release
namespace ImageLock

open Library Library.Fallible Library.Document
open ReleaseCandidate (Fields isText)

variable {Double : Type}

/-! ## Texts -/

/-- The characters that end a line of `str.splitlines`. -/
def lineBreaks : Text :=
  ['\n', '\r', '\x0b', '\x0c', '\x1c', '\x1d', '\x1e', '\x85', '\u2028', '\u2029'].map char

/-- The lines of a text, with the start of the first; the flag tells whether the last
character was a return, which takes a line feed with it. -/
def splitLines : Bool -> Text -> Text -> List Text
  | _, line, [] => if line = [] then [] else [line]
  | returned, line, point :: rest =>
      if returned = true ∧ point = char '\n' then splitLines false line rest
      else if point ∈ lineBreaks then line :: splitLines (point = char '\r') [] rest
      else splitLines false (line ++ [point]) rest

/-- `points.rsplit(mark, 1)`, where the mark is there. -/
def cutLast (mark : CodePoint) : Text -> Option (Text × Text)
  | [] => none
  | point :: rest =>
      match cutLast mark rest with
      | some parts => some (point :: parts.1, parts.2)
      | none => if point = mark then some ([], rest) else none

/-- What follows a word, in any case of its ASCII letters. -/
def skipWord (lower : CodePoint -> CodePoint) : Text -> Text -> Option Text
  | [], points => some points
  | _ :: _, [] => none
  | expected :: word, point :: points =>
      if lower point = expected then skipWord lower word points else none

def lowerAscii (point : CodePoint) : CodePoint :=
  if 65 ≤ point.val ∧ point.val ≤ 90 then point + 32 else point

def isNoSpace (point : CodePoint) : Bool :=
  !isSpacePoint point

/-- What follows white space, of which there is some. -/
def skipGap : Text -> Option Text
  | [] => none
  | point :: rest =>
      if isSpacePoint point = true then some (rest.dropWhile isSpacePoint) else none

/-- `(\S+)` with what follows it -/
def token (points : Text) : Option (Text × Text) :=
  if points.takeWhile isNoSpace = [] then none
  else some (points.takeWhile isNoSpace, points.dropWhile isNoSpace)

/-! ## References -/

/-- A reference to an image, and where it was found. -/
structure Use where
  kind : Text
  source : Text
  reference : Text

/-- The message; what a file or a JSON text was found wrong with is left out. -/
abbrev ImageLockError := Text

/-- A file, unless reading it raises. -/
structure SourceFile where
  path : Text
  content : Option Text

/-- `DIGEST.fullmatch` -/
def isDigest (points : Text) : Bool :=
  points.take 7 = text "sha256:" && (points.drop 7).length = 64 &&
    (points.drop 7).all fun point => decide (point ∈ text "0123456789abcdef")

/-- `_has_tag` -/
def hasTag (reference : Text) : Bool :=
  match cutLast (char '/') reference with
  | some parts => decide (char ':' ∈ parts.2)
  | none => decide (char ':' ∈ reference)

/-- `VARIABLE_DEFAULT.fullmatch`, and its default -/
def defaultOf (reference : Text) : Option Text :=
  (skipWord id (text "$\x7b") reference).bind fun points =>
    let isName := fun point : CodePoint => point != char ':' && point != char '\x7d'
    if points.takeWhile isName = [] then none
    else
      (skipWord id (text ":-") (points.dropWhile isName)).bind fun points =>
        let inside := fun point : CodePoint => point != char '\x7d'
        if points.takeWhile inside = [] then none
        else if points.dropWhile inside = text "\x7d" then some (points.takeWhile inside)
        else none

/-- `_variable_default` -/
def variableDefault (reference : Text) : Text :=
  (defaultOf reference).getD reference

/-- `COMPOSE_IMAGE.match`, and its reference -/
def composeImage (line : Text) : Option Text :=
  (skipWord id (text "image:") (line.dropWhile isSpacePoint)).bind fun points =>
    (token (points.dropWhile isSpacePoint)).bind fun found =>
      if found.2.all isSpacePoint = true then some found.1 else none

/-- The reference behind the platform of a `FROM`. -/
def platformImage (points : Text) : Option Text :=
  (skipWord lowerAscii (text "--platform=") points).bind fun points =>
    (token points).bind fun platform =>
      (skipGap platform.2).bind fun points => (token points).map Prod.fst

/-- `FROM_IMAGE.match`, and its reference -/
def fromImage (line : Text) : Option Text :=
  (skipWord lowerAscii (text "from") (line.dropWhile isSpacePoint)).bind fun points =>
    (skipGap points).bind fun points =>
      (platformImage points).or ((token points).map Prod.fst)

/-! ## Uses -/

/-- `LOCAL_PREFIX` -/
def localPrefix : Text :=
  text "lakehouse-ops/"

def isLocal (reference : Text) : Bool :=
  localPrefix.isPrefixOf reference

/-- `_read_lines` -/
def readLines (file : SourceFile) : Except ImageLockError (List Text) :=
  match file.content with
  | none => .error (text "cannot read image source " ++ file.path)
  | some content => .ok (splitLines false [] content)

/-- The source of a use: the path with the number of the line. -/
def lineSource (path : Text) (number : Nat) : Text :=
  path ++ char ':' :: printNat number

/-- The use in a line of a Compose file, if there is one. -/
def composeUse (path : Text) (line : Text × Nat) : Option Use :=
  (composeImage line.1).bind fun found =>
    if isLocal (variableDefault found) = true then none
    else some {
      kind := text "compose"
      source := lineSource path line.2
      reference := variableDefault found
    }

/-- `_compose_uses` -/
def composeUses (file : SourceFile) : Except ImageLockError (List Use) := do
  let lines <- readLines file
  return (lines.zipIdx 1).filterMap (composeUse file.path)

def dockerfileUse (path : Text) (line : Text × Nat) : Option Use :=
  (fromImage line.1).map fun reference => {
    kind := text "dockerfile"
    source := lineSource path line.2
    reference
  }

/-- `_dockerfile_uses` -/
def dockerfileUses (file : SourceFile) : Except ImageLockError (List Use) := do
  let lines <- readLines file
  let uses := (lines.zipIdx 1).filterMap (dockerfileUse file.path)
  reject (uses = []) (text "Dockerfile has no FROM instruction: " ++ file.path)
  return uses

/-- `payload[phase]["image"]`, unless it raises -/
def phaseImage (payload : Document Double) (phase : Text) : Option (Document Double) :=
  match payload with
  | .object fields =>
      match fields.lookup phase with
      | some (.object endpoint) => endpoint.lookup (text "image")
      | _ => none
  | _ => none

/-- The phases of an upgrade. -/
def phases : List Text :=
  [text "source", text "target"]

def upgradeUse (path : Text) (phase : Text) : Document Double -> Except ImageLockError Use
  | .string reference => .ok { kind := text "upgrade", source := path ++ char ':' :: phase, reference }
  | _ => .error (text "upgrade image references must be strings")

/-- `_upgrade_uses` -/
def upgradeUses (floats : FloatFormat Double) (file : SourceFile) :
    Except ImageLockError (List Use) :=
  match (file.content.bind (loads floats)).bind fun payload => phases.mapM (phaseImage payload) with
  | none => .error (text "cannot read upgrade image references")
  | some images => (phases.zip images).mapM fun image => upgradeUse file.path image.1 image.2

/-! ## The lock -/

/-- The digests of the tags. -/
abbrev Lock := List (Text × Text)

/-- `every locked image must retain an explicit tag` -/
def lockedTag : Option (Document Double) -> Except ImageLockError Text
  | some (.string tag) =>
      if hasTag tag = true then .ok tag
      else .error (text "every locked image must retain an explicit tag")
  | _ => .error (text "every locked image must retain an explicit tag")

def lockedDigest (tag : Text) : Option (Document Double) -> Except ImageLockError Text
  | some (.string digest) =>
      if isDigest digest = true then .ok digest
      else .error (text "invalid digest for locked image: " ++ tag)
  | _ => .error (text "invalid digest for locked image: " ++ tag)

/-- One turn of the loop of `_load_lock`. -/
def addEntry (locked : Lock) : Document Double -> Except ImageLockError Lock
  | .object entry => do
      let tag <- lockedTag (entry.lookup (text "tag"))
      let digest <- lockedDigest tag (entry.lookup (text "digest"))
      reject (tag ∈ locked.map Prod.fst) (text "duplicate locked image: " ++ tag)
      return locked ++ [(tag, digest)]
  | _ => .error (text "image lock entries must be objects")

/-- `_load_lock` of a payload. -/
def lockOf : Document Double -> Except ImageLockError Lock
  | .object payload => do
      reject (isText (payload.lookup (text "schema_version")) (text "1.0") = false)
        (text "image lock schema_version must be 1.0")
      match payload.lookup (text "images") with
      | some (.array (first :: rest)) => (first :: rest).foldlM addEntry []
      | _ => .error (text "image lock must contain a non-empty images array")
  | _ => .error (text "image lock schema_version must be 1.0")

/-- `_load_lock` -/
def loadLock (floats : FloatFormat Double) (file : SourceFile) : Except ImageLockError Lock :=
  match file.content.bind (loads floats) with
  | none => .error (text "cannot read image lock")
  | some payload => lockOf payload

/-! ## The verification -/

/-- `_split_pinned_reference` -/
def splitPinnedReference (reference source : Text) : Except ImageLockError (Text × Text) :=
  match cutLast (char '@') reference with
  | none => .error (text "external image is not digest-pinned: " ++ reference ++ text " (" ++
      source ++ text ")")
  | some parts =>
      if hasTag parts.1 = true ∧ isDigest parts.2 = true then .ok parts
      else .error (text "invalid pinned image reference: " ++ reference ++ text " (" ++ source ++
        text ")")

/-- One turn of the loop of `verify_image_lock`, and the tag that is used. -/
def checkUse (locked : Lock) (use : Use) : Except ImageLockError Text := do
  let parts <- splitPinnedReference use.reference use.source
  match locked.lookup parts.1 with
  | none => .error (text "image is not present in lock: " ++ parts.1 ++ text " (" ++ use.source ++
      text ")")
  | some expected =>
      if parts.2 = expected then .ok parts.1
      else .error (text "image digest does not match lock: " ++ parts.1 ++ text " (" ++
        use.source ++ text ")")

/-- The report of a verification. -/
structure Report where
  schemaVersion : Text
  status : Text
  images : Nat
  uses : Nat
  sources : List (Text × Nat)
  lockSha256 : Text

/-- What the code calls: the digest of a text file, and the schema of the report. -/
structure Tools (Double : Type) where
  floats : FloatFormat Double
  normalizedTextDigest : Option Text -> Text
  /-- The error of `validate_report_schema`, if there is one. -/
  schemaProblem : Report -> Option Text

/-- The counts of the kinds that are used, sorted by kind. -/
def sourceCounts (uses : List Use) : List (Text × Nat) :=
  ([text "compose", text "dockerfile", text "upgrade"].map fun kind =>
    (kind, (uses.map Use.kind).count kind)).filter fun count => count.2 ≠ 0

/-- The files of a verification. -/
structure Sources where
  lock : SourceFile
  compose : SourceFile
  dockerfiles : List SourceFile
  upgradePlan : SourceFile

/-- The uses of all files, in order. -/
def usesOf (floats : FloatFormat Double) (sources : Sources) : Except ImageLockError (List Use) := do
  let compose <- composeUses sources.compose
  let dockerfiles <- sources.dockerfiles.mapM dockerfileUses
  let upgrade <- upgradeUses floats sources.upgradePlan
  return compose ++ dockerfiles.flatten ++ upgrade

def reportOf (tools : Tools Double) (sources : Sources) (uses : List Use) (usedTags : List Text) :
    Report where
  schemaVersion := text "1.0"
  status := text "ready"
  images := usedTags.dedup.length
  uses := uses.length
  sources := sourceCounts uses
  lockSha256 := tools.normalizedTextDigest sources.lock.content

/-- `verify_image_lock` -/
def verifyImageLock (tools : Tools Double) (sources : Sources) : Except ImageLockError Report := do
  let locked <- loadLock tools.floats sources.lock
  let uses <- usesOf tools.floats sources
  let usedTags <- uses.mapM (checkUse locked)
  let stale := (locked.map Prod.fst).filter fun tag => tag ∉ usedTags
  reject (stale ≠ []) (text "lock contains unused images: " ++
    (text ", ").intercalate (stale.mergeSort fun left right => decide (left ≤ right)))
  match tools.schemaProblem (reportOf tools sources uses usedTags) with
  | some problem => .error problem
  | none => .ok (reportOf tools sources uses usedTags)

/-! ## Lines of images -/

/-- White space only. -/
def Blank (points : Text) : Prop :=
  forall point, point ∈ points -> isSpacePoint point = true

structure IsReference (reference : Text) : Prop where
  present : reference ≠ []
  noSpace : forall point, point ∈ reference -> isSpacePoint point = false
  noComment : reference.head? ≠ some (char '#')

/-- The line `image: reference` of a Compose file, with what follows the reference. -/
def ImageLine (line reference trailer : Text) : Prop :=
  Exists fun indent => Exists fun gap =>
    line = indent ++ (text "image:" ++ (gap ++ (reference ++ trailer))) ∧
      Blank indent ∧ Blank gap ∧ gap ≠ [] ∧ IsReference reference

/-- A comment behind white space. -/
def Commented (trailer : Text) : Prop :=
  Exists fun gap => Exists fun comment =>
    trailer = gap ++ char '#' :: comment ∧ Blank gap ∧ gap ≠ []

/-- A reference with the digest that the lock has for its tag. -/
def PinnedBy (locked : Lock) (reference : Text) : Prop :=
  Exists fun tag => Exists fun digest =>
    reference = tag ++ char '@' :: digest ∧ isDigest digest = true ∧
      locked.lookup tag = some digest

/-- Every reference that is not local, on the lines with such a trailer, is pinned. -/
def ReferencesPinned (locked : Lock) (compose : Text) (Trailer : Text -> Prop) : Prop :=
  forall line reference trailer,
    line ∈ splitLines false [] compose ->
    ImageLine line reference trailer ->
    Trailer trailer ->
    isLocal (variableDefault reference) = false ->
    PinnedBy locked (variableDefault reference)

theorem cutLast_eq_some {mark : CodePoint} {points : Text} {parts : Text × Text}
    (isCut : cutLast mark points = some parts) : points = parts.1 ++ mark :: parts.2 := by
  induction points generalizing parts with
  | nil => exact absurd isCut.symm (Option.some_ne_none _)
  | cons point rest inductionHypothesis =>
      rw [cutLast] at isCut
      cases further : cutLast mark rest with
      | some found =>
          rw [further] at isCut
          rw [← Option.some.inj isCut, List.cons_append, ← inductionHypothesis further]
      | none =>
          rw [further] at isCut
          by_cases isMark : point = mark
          · rw [if_pos isMark] at isCut
            rw [← Option.some.inj isCut, isMark]
            rfl
          · rw [if_neg isMark] at isCut
            exact absurd isCut.symm (Option.some_ne_none _)

theorem skipWord_append (word rest : Text) : skipWord id word (word ++ rest) = some rest := by
  induction word with
  | nil => rfl
  | cons point word inductionHypothesis =>
      rw [List.cons_append, skipWord, id_eq, if_pos rfl, inductionHypothesis]

/-- White space is dropped up to what is none. -/
theorem dropWhile_blank {blank rest : Text} (isBlank : Blank blank)
    (stops : rest.dropWhile isSpacePoint = rest) :
    (blank ++ rest).dropWhile isSpacePoint = rest := by
  rw [List.dropWhile_append_of_pos isBlank, stops]

theorem IsReference.stops {reference : Text} (isReference : IsReference reference)
    (trailer : Text) :
    (reference ++ trailer).dropWhile isSpacePoint = reference ++ trailer := by
  obtain ⟨point, rest, rfl⟩ := List.exists_cons_of_ne_nil isReference.present
  rw [List.cons_append, List.dropWhile_cons_of_neg]
  rw [isReference.noSpace point List.mem_cons_self]
  exact Bool.false_ne_true

/-- A reference is a token up to the white space behind it. -/
theorem token_reference {reference trailer : Text} (isReference : IsReference reference)
    (isBlank : Blank trailer) :
    token (reference ++ trailer) = some (reference, trailer) := by
  have noSpace : forall point, point ∈ reference -> isNoSpace point = true := by
    intro point member
    rw [isNoSpace, isReference.noSpace point member]
    rfl
  have ends : trailer.takeWhile isNoSpace = [] ∧ trailer.dropWhile isNoSpace = trailer := by
    cases trailer with
    | nil => exact ⟨rfl, rfl⟩
    | cons point rest =>
        have isSpace : ¬isNoSpace point = true := by
          rw [isNoSpace, isBlank point List.mem_cons_self]
          exact Bool.false_ne_true
        exact ⟨List.takeWhile_cons_of_neg isSpace, List.dropWhile_cons_of_neg isSpace⟩
  rw [token, List.takeWhile_append_of_pos noSpace, List.dropWhile_append_of_pos noSpace, ends.1,
    ends.2, List.append_nil, if_neg isReference.present]

/-- A line without a comment is matched. -/
theorem composeImage_of_blank {line reference trailer : Text}
    (isLine : ImageLine line reference trailer)
    (isBlank : Blank trailer) :
    composeImage line = some reference := by
  obtain ⟨indent, gap, rfl, blankIndent, blankGap, _, isReference⟩ := isLine
  have start : (text "image:" ++ (gap ++ (reference ++ trailer))).dropWhile isSpacePoint =
      text "image:" ++ (gap ++ (reference ++ trailer)) := rfl
  rw [composeImage, dropWhile_blank blankIndent start, skipWord_append, Option.bind_some,
    dropWhile_blank blankGap (isReference.stops trailer), token_reference isReference isBlank,
    Option.bind_some, if_pos (List.all_eq_true.mpr isBlank)]

/-- A use that passes is pinned. -/
theorem pinnedBy_of_checkUse {locked : Lock} {use : Use} {tag : Text}
    (passed : checkUse locked use = .ok tag) : PinnedBy locked use.reference := by
  obtain ⟨parts, split, matched⟩ := bind_eq_ok_iff.mp passed
  rw [splitPinnedReference] at split
  cases isCut : cutLast (char '@') use.reference with
  | none =>
      rw [isCut] at split
      cases split
  | some found =>
      rw [isCut] at split
      dsimp only at split
      by_cases valid : hasTag found.1 = true ∧ isDigest found.2 = true
      · rw [if_pos valid] at split
        rw [← Except.ok.inj split] at matched
        refine ⟨found.1, found.2, cutLast_eq_some isCut, valid.2, ?_⟩
        cases isLocked : locked.lookup found.1 with
        | none =>
            rw [isLocked] at matched
            cases matched
        | some expected =>
            rw [isLocked] at matched
            dsimp only at matched
            by_cases same : found.2 = expected
            · rw [same]
            · rw [if_neg same] at matched
              cases matched
      · rw [if_neg valid] at split
        cases split

/-- What a verification that succeeds has read: the lock, the lines of the Compose file and
the uses, which all pass. -/
theorem verified_uses {tools : Tools Double} {sources : Sources} {report : Report}
    (verified : verifyImageLock tools sources = .ok report) :
    Exists fun locked => Exists fun compose => Exists fun uses : List Use =>
      loadLock tools.floats sources.lock = .ok locked ∧
        sources.compose.content = some compose ∧
        (forall use, use ∈ ((splitLines false [] compose).zipIdx 1).filterMap
          (composeUse sources.compose.path) -> use ∈ uses) ∧
        forall use, use ∈ uses -> PinnedBy locked use.reference := by
  obtain ⟨locked, loaded, rest⟩ := bind_eq_ok_iff.mp verified
  obtain ⟨uses, areUses, rest⟩ := bind_eq_ok_iff.mp rest
  obtain ⟨usedTags, checked, _⟩ := bind_eq_ok_iff.mp rest
  obtain ⟨composed, areComposed, rest⟩ := bind_eq_ok_iff.mp areUses
  obtain ⟨dockerfiles, _, rest⟩ := bind_eq_ok_iff.mp rest
  obtain ⟨upgrade, _, same⟩ := bind_eq_ok_iff.mp rest
  obtain ⟨lines, areLines, isComposed⟩ := bind_eq_ok_iff.mp areComposed
  have passes := mapM_returns_iff.mp ⟨usedTags, checked⟩
  rw [readLines] at areLines
  cases content : sources.compose.content with
  | none =>
      rw [content] at areLines
      cases areLines
  | some compose =>
      rw [content] at areLines
      refine ⟨locked, compose, uses, loaded, rfl, fun use member => ?_, fun use member => ?_⟩
      · rw [← Except.ok.inj same, ← Except.ok.inj isComposed, ← Except.ok.inj areLines]
        exact List.mem_append_left _ (List.mem_append_left _ member)
      · obtain ⟨tag, passed⟩ := passes use member
        exact pinnedBy_of_checkUse passed

/-- The use of a line that is matched. -/
theorem exists_composeUse {path reference line : Text} {lines : List Text}
    (member : line ∈ lines)
    (found : composeImage line = some reference)
    (external : isLocal (variableDefault reference) = false) :
    Exists fun use => use ∈ (lines.zipIdx 1).filterMap (composeUse path) ∧
      use.reference = variableDefault reference := by
  rw [← List.zipIdx_map_fst 1 lines] at member
  obtain ⟨numbered, isNumbered, rfl⟩ := List.mem_map.mp member
  have isUse : composeUse path numbered = some {
      kind := text "compose"
      source := lineSource path numbered.2
      reference := variableDefault reference } := by
    rw [composeUse, found, Option.bind_some, external, if_neg Bool.false_ne_true]
  exact ⟨_, List.mem_filterMap.mpr ⟨numbered, isNumbered, isUse⟩, rfl⟩

/-- Where the lock is verified, every reference on a line without a comment is pinned. So all
references are exactly when those on lines with a comment are. -/
theorem references_pinned_iff {tools : Tools Double} {sources : Sources} {report : Report}
    (verified : verifyImageLock tools sources = .ok report) :
    Exists fun locked => Exists fun compose =>
      loadLock tools.floats sources.lock = .ok locked ∧
        sources.compose.content = some compose ∧
        (ReferencesPinned locked compose (fun trailer => Blank trailer ∨ Commented trailer) ↔
          ReferencesPinned locked compose Commented) := by
  obtain ⟨locked, compose, uses, loaded, content, composed, pinned⟩ := verified_uses verified
  refine ⟨locked, compose, loaded, content, fun all => ?_, fun commented => ?_⟩
  · exact fun line reference trailer member isLine comment =>
      all line reference trailer member isLine (.inr comment)
  · intro line reference trailer member isLine isTrailer external
    rcases isTrailer with isBlank | comment
    · obtain ⟨use, isUse, same⟩ :=
        exists_composeUse member (composeImage_of_blank isLine isBlank) external
      rw [← same]
      exact pinned use (composed use isUse)
    · exact commented line reference trailer member isLine comment external

/-! ## A sample -/

def sampleTools : Tools Unit where
  floats := { write := fun _ => text "0.5", read := fun _ => () }
  normalizedTextDigest := fun _ => []
  schemaProblem := fun _ => none

def sampleDigest : Text :=
  text "sha256:" ++ List.replicate 64 (char '0')

def sampleReference : Text :=
  text "a:1@" ++ sampleDigest

/-- One locked image, which every file uses. -/
def sampleSources (compose : Text) : Sources where
  lock := {
    path := text "images.lock.json"
    content := some (text "\x7b\"schema_version\":\"1.0\",\"images\":[\x7b\"tag\":\"a:1\",\"digest\":\"" ++
      sampleDigest ++ text "\"\x7d]\x7d") }
  compose := { path := text "compose.yaml", content := some compose }
  dockerfiles := [{ path := text "Dockerfile", content := some (text "FROM " ++ sampleReference) }]
  upgradePlan := {
    path := text "upgrade.json"
    content := some (text "\x7b\"source\":\x7b\"image\":\"" ++ sampleReference ++
      text "\"\x7d,\"target\":\x7b\"image\":\"" ++ sampleReference ++ text "\"\x7d\x7d") }

def pinnedCompose : Text :=
  text "services:\n  a:\n    image: " ++ sampleReference ++ text "\n"

/-- A Compose file with an image that is not pinned, on a line with a comment. -/
def commentedCompose : Text :=
  pinnedCompose ++ text "  b:\n    image: b:latest # tool\n"

theorem exists_of_toBool {Value : Type} {outcome : Except ImageLockError Value}
    (returned : outcome.toBool = true) : Exists fun value => outcome = .ok value := by
  cases outcome with
  | error problem => exact absurd returned Bool.false_ne_true
  | ok value => exact ⟨value, rfl⟩

theorem sample_references_pinned :
    Exists fun report => verifyImageLock sampleTools (sampleSources pinnedCompose) = .ok report ∧
      Exists fun locked => Exists fun compose =>
        loadLock sampleTools.floats (sampleSources pinnedCompose).lock = .ok locked ∧
          (sampleSources pinnedCompose).compose.content = some compose ∧
          ReferencesPinned locked compose fun trailer => Blank trailer ∨ Commented trailer := by
  obtain ⟨report, verified⟩ : Exists fun report =>
      verifyImageLock sampleTools (sampleSources pinnedCompose) = .ok report :=
    exists_of_toBool (by decide +kernel)
  obtain ⟨locked, compose, loaded, content, pinned⟩ := references_pinned_iff verified
  refine ⟨report, verified, locked, compose, loaded, content, pinned.mpr ?_⟩
  have noMark : forall line, line ∈ splitLines false [] pinnedCompose -> char '#' ∉ line := by
    decide +kernel
  rintro line reference trailer member ⟨indent, gap, rfl, _⟩ ⟨space, comment, rfl, _⟩
  rw [← Option.some.inj content] at member
  refine absurd ?_ (noMark _ member)
  simp only [List.mem_append, List.mem_cons, true_or, or_true]

/-- The image `b:latest` on a line with a comment passes the verification. -/
theorem commented_image_not_pinned :
    ¬(forall (tools : Tools Unit) (sources : Sources) (report : Report),
      verifyImageLock tools sources = .ok report ->
      Exists fun locked => Exists fun compose =>
        loadLock tools.floats sources.lock = .ok locked ∧
          sources.compose.content = some compose ∧
          ReferencesPinned locked compose fun trailer => Blank trailer ∨ Commented trailer) := by
  intro always
  obtain ⟨report, verified⟩ : Exists fun report =>
      verifyImageLock sampleTools (sampleSources commentedCompose) = .ok report :=
    exists_of_toBool (by decide +kernel)
  obtain ⟨locked, compose, _, content, pinned⟩ := always _ _ report verified
  have member : text "    image: b:latest # tool" ∈ splitLines false [] commentedCompose := by
    decide +kernel
  have noSpace : forall point, point ∈ text "b:latest" -> isSpacePoint point = false := by
    intro point isPoint
    have all : ((text "b:latest").all fun point => !isSpacePoint point) = true := by
      decide +kernel
    exact Bool.eq_false_iff.mpr fun space =>
      absurd (List.all_eq_true.mp all point isPoint) (by rw [space]; decide)
  have isLine : ImageLine (text "    image: b:latest # tool") (text "b:latest")
      (text " # tool") :=
    ⟨text "    ", text " ", by decide, List.all_eq_true.mp (by decide +kernel),
      List.all_eq_true.mp (by decide +kernel), by decide, by decide, noSpace, by decide⟩
  have comment : Commented (text " # tool") :=
    ⟨text " ", text " tool", by decide, List.all_eq_true.mp (by decide +kernel), by decide⟩
  rw [Option.some.inj content] at member
  obtain ⟨tag, digest, same, _⟩ := pinned _ _ _ member isLine (.inr comment) (by decide +kernel)
  have noMark : char '@' ∉ variableDefault (text "b:latest") := by
    decide +kernel
  rw [same] at noMark
  exact noMark (List.mem_append_right _ List.mem_cons_self)

end ImageLock
end Release
end LakehouseOps
