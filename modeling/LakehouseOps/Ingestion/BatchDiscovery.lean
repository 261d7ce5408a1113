import LakehouseOps.Library.Loop
import LakehouseOps.Ingestion.CommerceBatches
import LakehouseOps.Ingestion.CommerceLanding

/-!
# Discovery of batches

The planner lists the objects of the landing zone page by page, picks the manifests among
them, and reads each of them.
-/

namespace LakehouseOps
namespace Ingestion
namespace BatchDiscovery

open Library Library.Loop

variable {Problem : Type}

/-- What is raised: by the client, or by the planner. -/
inductive DiscoveryError (Problem : Type)
  | raised (problem : Problem)
  | batch (error : CommerceBatchError)

/-! ## The listing -/

/-- An object of a listing; `LastModified` is missing where it is no moment with a zone. -/
structure ListedObject where
  key : String
  lastModified : Option Instant

/-- A page of a listing; a token is missing where it is falsy. -/
structure ListingPage where
  contents : List ListedObject
  isTruncated : Bool
  nextContinuationToken : Option String

structure ListingRequest where
  bucket : String
  keyPrefix : String
  continuationToken : Option String

/-- A manifest of a listing. -/
structure ManifestEntry where
  batchId : String
  key : String
  committedAt : Option Instant

/-- `manifest_pattern.fullmatch`, and the id of the batch -/
def manifestBatch? (root key : String) : Option String :=
  let start := (root ++ "/batch_id=").toList
  let rest := key.toList.drop start.length
  let batchId := String.ofList (rest.take 16)
  if start.isPrefixOf key.toList = true ∧ isHex 16 batchId = true ∧
      rest.drop 16 = "/manifest.json".toList then
    some batchId
  else none

def manifestEntryOf (root : String) (object : ListedObject) : Option ManifestEntry :=
  (manifestBatch? root object.key).map fun batchId =>
    { batchId, key := object.key, committedAt := object.lastModified }

/-- The variables of the loop over the pages. -/
structure Listing where
  keys : List ManifestEntry
  continuation : Option String
  seenTokens : List String

def startListing : Listing where
  keys := []
  continuation := none
  seenTokens := []

/-- The request for the next page. -/
def listingRequest (zone : LandingZone) (listing : Listing) : ListingRequest where
  bucket := zone.bucketName
  keyPrefix := zone.root ++ "/"
  continuationToken := listing.continuation

/-- One turn of the loop over the pages. -/
def readPage (zone : LandingZone) (listing : Listing) :
    Except Problem ListingPage ->
      Progress Listing (Except (DiscoveryError Problem) (List ManifestEntry))
  | .error problem => .ended (.error (.raised problem))
  | .ok page =>
      let keys := listing.keys ++ page.contents.filterMap (manifestEntryOf zone.root)
      if page.isTruncated = false then .ended (.ok keys)
      else
        match page.nextContinuationToken with
        | none =>
            .ended (.error (.batch ⟨"S3 listing is truncated without a continuation token"⟩))
        | some token =>
            if token ∈ listing.seenTokens then
              .ended (.error (.batch ⟨"S3 listing returned a repeated continuation token"⟩))
            else
              .waiting {
                keys
                continuation := some token
                seenTokens := listing.seenTokens ++ [token]
              }

/-- The loop of `discover` over the pages of the listing. -/
def listingLoop (zone : LandingZone) :
    Loop (Progress Listing (Except (DiscoveryError Problem) (List ManifestEntry))) ListingRequest
      (Except Problem ListingPage) (Except (DiscoveryError Problem) (List ManifestEntry)) :=
  reading (listingRequest zone) (readPage zone)

/-- What a page leaves to be read: another token that was not seen. -/
theorem readPage_waiting {zone : LandingZone} {listing next : Listing}
    {answer : Except Problem ListingPage} (waits : readPage zone listing answer = .waiting next) :
    Exists fun page => Exists fun token =>
      answer = .ok page ∧ page.nextContinuationToken = some token ∧
        token ∉ listing.seenTokens ∧
        next.keys = listing.keys ++ page.contents.filterMap (manifestEntryOf zone.root) ∧
        next.seenTokens = listing.seenTokens ++ [token] := by
  cases answer with
  | error problem => cases waits
  | ok page =>
      rw [readPage] at waits
      by_cases ends : page.isTruncated = false
      · rw [if_pos ends] at waits
        cases waits
      · rw [if_neg ends] at waits
        cases isToken : page.nextContinuationToken with
        | none =>
            rw [isToken] at waits
            cases waits
        | some token =>
            rw [isToken] at waits
            dsimp only at waits
            by_cases seen : token ∈ listing.seenTokens
            · rw [if_pos seen] at waits
              cases waits
            · rw [if_neg seen] at waits
              cases waits
              exact ⟨page, token, rfl, isToken, seen, rfl, rfl⟩

/-- With tokens from a finite set, the loop stops: every page that it goes on with takes a
token of the set. -/
theorem listing_stops (zone : LandingZone) {answers : Nat -> Except Problem ListingPage}
    {tokens : List String}
    (finite : forall index page token, answers index = .ok page ->
      page.nextContinuationToken = some token -> token ∈ tokens) :
    Exists fun result =>
      (listingLoop zone).StopsFrom answers 0 (.waiting startListing) result := by
  refine stops_of_measure (fun listing => listing.seenTokens.Nodup ∧ listing.seenTokens ⊆ tokens)
    (fun listing => tokens.length - listing.seenTokens.length) ?_
    ⟨List.nodup_nil, List.nil_subset _⟩
  rintro index listing next ⟨distinct, known⟩ waits
  obtain ⟨page, token, isPage, isToken, isNew, _, seen⟩ := readPage_waiting waits
  have nextDistinct : next.seenTokens.Nodup := by
    rw [seen]
    exact List.nodup_append.mpr ⟨distinct, List.nodup_singleton _, by
      rintro before isBefore _ member rfl
      exact isNew (List.mem_singleton.mp member ▸ isBefore)⟩
  have nextKnown : next.seenTokens ⊆ tokens := by
    rw [seen]
    exact List.append_subset.mpr ⟨known, List.cons_subset.mpr
      ⟨finite index page token isPage isToken, List.nil_subset _⟩⟩
  refine ⟨⟨nextDistinct, nextKnown⟩, ?_⟩
  have fits := (List.subperm_of_subset nextDistinct nextKnown).length_le
  rw [seen, List.length_append, List.length_singleton] at fits ⊢
  omega

end BatchDiscovery
end Ingestion
end LakehouseOps
