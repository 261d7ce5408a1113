import LakehouseOps.Library.Loop
import LakehouseOps.Library.Truthiness

/-!
# Listings of the audit

The audit of the landing zone lists keys, or versions, page by page. Neither loop looks at
the tokens that it had before.
-/

namespace LakehouseOps
namespace Ingestion
namespace AuditListing

open Library Library.Document Library.Loop

variable {Double Problem : Type}

/-- A response of the client, as a dictionary. -/
abbrev Response (Double : Type) := List (Text × Document Double)

/-- What is raised: by the client, or by the loop. -/
inductive ListingError (Problem : Type)
  | raised (problem : Problem)
  | value (message : String)

/-! ## A loop over pages -/

section Pages

variable {Request Items Result : Type}

/-- One turn of a loop over pages: what a page adds, what the last page makes of the items,
and the request for the page behind a marker. -/
def readListing
    (isZero : Double -> Bool)
    (marker : Text)
    (missing : String)
    (extend : Items -> Response Double -> Items)
    (finish : Items -> Result)
    (follow : Request -> Response Double -> Text -> Request)
    (state : Request × Items) :
    Except Problem (Response Double) ->
      Progress (Request × Items) (Except (ListingError Problem) Result)
  | .error problem => .ended (.error (.raised problem))
  | .ok response =>
      if truthyField isZero response (text "IsTruncated") = false then
        .ended (.ok (finish (extend state.2 response)))
      else
        match textField response marker with
        | none => .ended (.error (.value missing))
        | some next => .waiting (follow state.1 response next, extend state.2 response)

/-- The client raises, or its page is the last one, or there is no marker of the next one. -/
def EndsListing (isZero : Double -> Bool) (marker : Text) :
    Except Problem (Response Double) -> Prop
  | .error _ => True
  | .ok response =>
      truthyField isZero response (text "IsTruncated") = false ∨ textField response marker = none

/-- The page is the last one. -/
def LastPage (isZero : Double -> Bool) : Except Problem (Response Double) -> Prop
  | .error _ => False
  | .ok response => truthyField isZero response (text "IsTruncated") = false

/-- The pages among the first answers. -/
def pages (answers : Nat -> Except Problem (Response Double)) (count : Nat) :
    List (Response Double) :=
  (List.range count).filterMap fun index => (answers index).toOption

/-- An error, or what all pages up to the last one have. -/
def Complete
    (isZero : Double -> Bool)
    (complete : List (Response Double) -> Result)
    (answers : Nat -> Except Problem (Response Double)) :
    Except (ListingError Problem) Result -> Prop
  | .error _ => True
  | .ok result =>
      Exists fun last => LastPage isZero (answers last) ∧
        result = complete (pages answers (last + 1))

variable {isZero : Double -> Bool} {marker : Text} {missing : String}
variable {extend : Items -> Response Double -> Items} {finish : Items -> Result}
variable {follow : Request -> Response Double -> Text -> Request}

theorem readListing_ends_iff (state : Request × Items)
    (answer : Except Problem (Response Double)) :
    (Exists fun value =>
      readListing isZero marker missing extend finish follow state answer = .ended value) ↔
        EndsListing isZero marker answer := by
  cases answer with
  | error problem => exact ⟨fun _ => trivial, fun _ => ⟨_, rfl⟩⟩
  | ok response =>
      rw [readListing, EndsListing]
      by_cases last : truthyField isZero response (text "IsTruncated") = false
      · rw [if_pos last]
        exact ⟨fun _ => .inl last, fun _ => ⟨_, rfl⟩⟩
      · rw [if_neg last]
        cases textField response marker with
        | none => exact ⟨fun _ => .inr rfl, fun _ => ⟨_, rfl⟩⟩
        | some next =>
            constructor
            · rintro ⟨value, never⟩
              cases never
            · rintro (isLast | never)
              · exact absurd isLast last
              · exact absurd never (Option.some_ne_none _)

theorem pages_succ {answers : Nat -> Except Problem (Response Double)} {count : Nat}
    {response : Response Double} (isPage : answers count = .ok response) :
    pages answers (count + 1) = pages answers count ++ [response] := by
  rw [pages, pages, List.range_succ, List.filterMap_append, List.filterMap_cons, isPage]
  rfl

/-- What is waiting holds the items of the page as well. -/
theorem readListing_waiting {state next : Request × Items}
    {answer : Except Problem (Response Double)}
    (waits : readListing isZero marker missing extend finish follow state answer = .waiting next) :
    Exists fun response => answer = .ok response ∧ next.2 = extend state.2 response := by
  cases answer with
  | error problem => nomatch waits
  | ok response =>
      rw [readListing] at waits
      by_cases last : truthyField isZero response (text "IsTruncated") = false
      · rw [if_pos last] at waits
        nomatch waits
      · rw [if_neg last] at waits
        cases isNext : textField response marker with
        | none =>
            rw [isNext] at waits
            nomatch waits
        | some point =>
            rw [isNext] at waits
            exact ⟨response, rfl, (congrArg Prod.snd (Progress.waiting.inj waits)).symm⟩

theorem readListing_returned {state : Request × Items} {result : Result}
    {answer : Except Problem (Response Double)}
    (ended : readListing isZero marker missing extend finish follow state answer =
      .ended (.ok result)) :
    LastPage isZero answer ∧
      Exists fun response => answer = .ok response ∧
        result = finish (extend state.2 response) := by
  cases answer with
  | error problem => nomatch Progress.ended.inj ended
  | ok response =>
      rw [readListing] at ended
      by_cases last : truthyField isZero response (text "IsTruncated") = false
      · rw [if_pos last] at ended
        exact ⟨last, response, rfl, (Except.ok.inj (Progress.ended.inj ended)).symm⟩
      · rw [if_neg last] at ended
        cases isNext : textField response marker with
        | none =>
            rw [isNext] at ended
            nomatch Progress.ended.inj ended
        | some next =>
            rw [isNext] at ended
            nomatch ended

/-- What the loop returns is complete. -/
theorem complete_of_stops {request : Request} {items : Items}
    {answers : Nat -> Except Problem (Response Double)}
    {result : Except (ListingError Problem) Result}
    (stops : (reading Prod.fst (readListing isZero marker missing extend finish follow)).StopsFrom
      answers 0 (.waiting (request, items)) result) :
    Complete isZero (fun pages => finish (pages.foldl extend items)) answers result := by
  obtain ⟨last, final, before, ended⟩ := stops.ended_by
    (fun index state => state.2 = (pages answers index).foldl extend items)
    (by
      intro index state next before waits
      obtain ⟨response, isPage, added⟩ := readListing_waiting waits
      rw [added, before, pages_succ isPage, List.foldl_append]
      rfl)
    rfl
  cases result with
  | error problem => trivial
  | ok result =>
      obtain ⟨isLast, response, isPage, same⟩ := readListing_returned ended
      refine ⟨last, isLast, ?_⟩
      rw [same, before, pages_succ isPage]
      exact congrArg finish (List.foldl_concat _ _ _ _).symm

/-- The loop stops, with what is complete, exactly when some answer ends the listing. -/
theorem stops_complete_iff (request : Request) (items : Items)
    (answers : Nat -> Except Problem (Response Double)) :
    (Exists fun result =>
      (reading Prod.fst (readListing isZero marker missing extend finish follow)).StopsFrom
          answers 0 (.waiting (request, items)) result ∧
        Complete isZero (fun pages => finish (pages.foldl extend items)) answers result) ↔
      Exists fun index => EndsListing isZero marker (answers index) := by
  rw [← stops_iff_ends readListing_ends_iff (request, items)]
  constructor
  · rintro ⟨result, stops, _⟩
    exact ⟨result, stops⟩
  · rintro ⟨result, stops⟩
    exact ⟨result, stops, complete_of_stops stops⟩

end Pages

/-! ## Keys -/

/-- The key of an entry that stands for a JSON file. -/
def jsonKey : Document Double -> Option Text
  | .object item =>
      match item.lookup (text "Key") with
      | some (.string key) => if text ".json" <:+ key then some key else none
      | _ => none
  | _ => none

structure KeysRequest where
  bucket : Text
  keyPrefix : Option Text
  continuationToken : Option Text

/-- `request["Prefix"]`, where there is a prefix -/
def requestPrefix (keyPrefix : Text) : Option Text :=
  if keyPrefix = [] then none else some (keyPrefix ++ text "/")

def startKeys (bucket keyPrefix : Text) : KeysRequest where
  bucket
  keyPrefix := requestPrefix keyPrefix
  continuationToken := none

/-- The keys with those of a page. -/
def extendKeys (keys : List Text) (response : Response Double) : List Text :=
  keys ++ ((arrayField response (text "Contents")).getD []).filterMap jsonKey

def sortedKeys (keys : List Text) : List Text :=
  keys.mergeSort fun left right => decide (left ≤ right)

/-- `_list_s3_json_keys` -/
def listS3JsonKeys (isZero : Double -> Bool) :
    Loop (Progress (KeysRequest × List Text) (Except (ListingError Problem) (List Text)))
      KeysRequest (Except Problem (Response Double))
      (Except (ListingError Problem) (List Text)) :=
  reading Prod.fst (readListing isZero (text "NextContinuationToken")
    "truncated S3 listing has no continuation token" extendKeys sortedKeys
    fun request _ token => { request with continuationToken := some token })

/-! ## Versions -/

structure VersionsRequest where
  bucket : Text
  keyPrefix : Option Text
  keyMarker : Option Text
  versionIdMarker : Option Text

structure VersionEntry where
  key : Text
  versionId : Text
  isLatest : Bool

/-- `item.get("IsLatest") is True` -/
def isLatest (item : Response Double) : Bool :=
  match item.lookup (text "IsLatest") with
  | some (.bool value) => value
  | _ => false

/-- An entry with a version. -/
def versionEntry (value : Document Double) : Option VersionEntry :=
  match value with
  | .object item =>
      (jsonKey value).bind fun key =>
        (textField item (text "VersionId")).map fun versionId =>
          { key, versionId, isLatest := isLatest item }
  | _ => none

/-- `_normalize_s3_version_entries(response.get(field))` -/
def normalizeS3VersionEntries (response : Response Double) (field : Text) : List VersionEntry :=
  ((arrayField response field).getD []).filterMap versionEntry

/-- The versions and the delete markers. -/
abbrev Versions := List VersionEntry × List VersionEntry

def startVersions (bucket keyPrefix : Text) : VersionsRequest where
  bucket
  keyPrefix := requestPrefix keyPrefix
  keyMarker := none
  versionIdMarker := none

/-- The versions and the delete markers with those of a page. -/
def extendVersions (versions : Versions) (response : Response Double) : Versions :=
  (versions.1 ++ normalizeS3VersionEntries response (text "Versions"),
    versions.2 ++ normalizeS3VersionEntries response (text "DeleteMarkers"))

def sortedEntries (entries : List VersionEntry) : List VersionEntry :=
  entries.mergeSort fun left right =>
    decide (toLex (left.key, left.versionId) ≤ toLex (right.key, right.versionId))

def sortedVersions (versions : Versions) : Versions :=
  (sortedEntries versions.1, sortedEntries versions.2)

/-- `_list_s3_json_versions` -/
def listS3JsonVersions (isZero : Double -> Bool) :
    Loop (Progress (VersionsRequest × Versions) (Except (ListingError Problem) Versions))
      VersionsRequest (Except Problem (Response Double))
      (Except (ListingError Problem) Versions) :=
  reading Prod.fst (readListing isZero (text "NextKeyMarker")
    "truncated S3 version listing has no next key marker" extendVersions sortedVersions
    fun request response keyMarker => { request with
      keyMarker := some keyMarker
      versionIdMarker := textField response (text "NextVersionIdMarker") })

end AuditListing
end Ingestion
end LakehouseOps
