import LakehouseOps.Ingestion.AuditListing
import LakehouseOps.Ingestion.BatchDiscovery
import LakehouseOps.Trino.OperationalMetrics

/-!
# Loops over pages

Four loops follow the pages of a server. Discovery of batches stops on every server with
finitely many tokens; the two listings of the audit and the collector of metrics stop exactly
on servers that send a page which ends them.
-/

namespace LakehouseOps
namespace Pipeline
namespace PagingLoops

open Library Library.Document Library.Loop
open Ingestion Ingestion.AuditListing Ingestion.BatchDiscovery
open Trino.OperationalMetrics (Values NextUri HasLink fetchOperationalSnapshot startRequest nextUri)

variable {Double Problem : Type}

/-- What a server sends to the loops of the audit and of the collector, one after another. -/
structure Server (Double Problem : Type) where
  keys : Nat -> Except Problem (AuditListing.Response Double)
  versions : Nat -> Except Problem (AuditListing.Response Double)
  statement : Nat -> Except Problem (Document Double)

/-- Tokens, markers and links from a finite set. -/
structure FiniteTokens (tokens : List Text) (server : Server Double Problem) : Prop where
  keys : forall index response token, server.keys index = .ok response ->
    textField response (text "NextContinuationToken") = some token -> token ∈ tokens
  versions : forall index response marker token, server.versions index = .ok response ->
    marker ∈ [text "NextKeyMarker", text "NextVersionIdMarker"] ->
    textField response marker = some token -> token ∈ tokens
  statement : forall index page uri, server.statement index = .ok (.object page) ->
    nextUri page = .link uri -> uri ∈ tokens

/-- The loops stop, each with an error or the complete result. -/
structure LoopsStop (values : Values Double) (isZero : Double -> Bool)
    (bucket keyPrefix uri user : Text) (server : Server Double Problem) : Prop where
  keys : Exists fun result =>
    (listS3JsonKeys isZero).StopsFrom server.keys 0
        (.waiting (startKeys bucket keyPrefix, [])) result ∧
      Complete isZero (fun pages => sortedKeys (pages.foldl extendKeys [])) server.keys result
  versions : Exists fun result =>
    (listS3JsonVersions isZero).StopsFrom server.versions 0
        (.waiting (startVersions bucket keyPrefix, ([], []))) result ∧
      Complete isZero (fun pages => sortedVersions (pages.foldl extendVersions ([], [])))
        server.versions result
  statement : Exists fun result =>
    (fetchOperationalSnapshot values user).StopsFrom server.statement 0
        (.waiting (startRequest uri user, [])) result ∧
      Trino.OperationalMetrics.Complete values server.statement result

/-- To each loop the server sends an answer that ends it. -/
structure EndsPages (isZero : Double -> Bool) (server : Server Double Problem) : Prop where
  keys : Exists fun index =>
    EndsListing isZero (text "NextContinuationToken") (server.keys index)
  versions : Exists fun index => EndsListing isZero (text "NextKeyMarker") (server.versions index)
  statement : Exists fun index => ¬HasLink (server.statement index)

/-- On any server the three loops stop exactly when it sends each an answer that ends it.
Discovery needs no such answer, where the tokens are from a finite set. -/
theorem paging_loops_stop_iff
    (values : Values Double)
    (isZero : Double -> Bool)
    (bucket keyPrefix uri user : Text)
    (zone : LandingZone) :
    (forall server : Server Double Problem,
      LoopsStop values isZero bucket keyPrefix uri user server ↔ EndsPages isZero server) ∧
      forall (pages : Nat -> Except Problem ListingPage) (tokens : List String),
        (forall index page token, pages index = .ok page ->
          page.nextContinuationToken = some token -> token ∈ tokens) ->
        Exists fun result =>
          (listingLoop zone).StopsFrom pages 0 (.waiting startListing) result := by
  refine ⟨fun server => ⟨fun stops => ?_, fun ends => ?_⟩, fun pages tokens finite =>
    listing_stops zone finite⟩
  · exact {
      keys := (AuditListing.stops_complete_iff _ _ _).mp stops.keys
      versions := (AuditListing.stops_complete_iff _ _ _).mp stops.versions
      statement := (Trino.OperationalMetrics.stops_complete_iff _ _).mp stops.statement
    }
  · exact {
      keys := (AuditListing.stops_complete_iff _ _ _).mpr ends.keys
      versions := (AuditListing.stops_complete_iff _ _ _).mpr ends.versions
      statement := (Trino.OperationalMetrics.stops_complete_iff _ _).mpr ends.statement
    }

/-! ## Samples -/

def sampleValues : Values Unit where
  str := fun _ => []
  ofInt := fun _ => some ()
  isPositive := fun _ => true

def sampleZone : LandingZone where
  readers := { loads := fun _ => none, sha256 := fun _ => "" }
  bucketName := "lake"
  keyPrefix := "landing"

/-- Every page is the last one. -/
def emptyServer : Server Unit Unit where
  keys := fun _ => .ok []
  versions := fun _ => .ok []
  statement := fun _ => .ok (.object [])

/-- Every page is truncated, with the same token. -/
def cyclingServer : Server Unit Unit where
  keys := fun _ => .ok [(text "IsTruncated", .bool true),
    (text "NextContinuationToken", .string (text "again"))]
  versions := fun _ => .ok [(text "IsTruncated", .bool true),
    (text "NextKeyMarker", .string (text "again"))]
  statement := fun _ => .ok (.object [(text "nextUri", .string (text "http://a/again"))])

def cyclingPages (_ : Nat) : Except Unit ListingPage :=
  .ok { contents := [], isTruncated := true, nextContinuationToken := some "again" }

/-- The loops stop on empty pages, and discovery stops on the same token again and again. -/
theorem sample_loops_stop :
    LoopsStop sampleValues (fun _ => false) (text "lake") [] [] [] emptyServer ∧
      Exists fun result =>
        (listingLoop sampleZone).StopsFrom cyclingPages 0 (.waiting startListing) result := by
  have stops := @paging_loops_stop_iff Unit Unit sampleValues (fun _ => false) (text "lake")
    [] [] [] sampleZone
  refine ⟨(stops.1 emptyServer).mpr ⟨⟨0, .inl rfl⟩, ⟨0, .inl rfl⟩, 0, ?_⟩,
    stops.2 cyclingPages ["again"] ?_⟩
  · rintro ⟨response, page, uri, isResponse, isPage, isLink⟩
    rw [← Except.ok.inj isResponse] at isPage
    rw [← Option.some.inj isPage] at isLink
    exact nomatch isLink
  · rintro index page token isPage isToken
    rw [← Except.ok.inj isPage] at isToken
    exact List.mem_singleton.mpr (Option.some.inj isToken).symm

/-- On a server that sends the same token again and again the listing of keys never stops, so
it does not stop on every server with tokens from a finite set. -/
theorem cycling_server_not_stopped :
    ¬(forall (values : Values Unit) (isZero : Unit -> Bool)
        (bucket keyPrefix uri user : Text) (server : Server Unit Unit) (tokens : List Text),
      FiniteTokens tokens server ->
      LoopsStop values isZero bucket keyPrefix uri user server) := by
  intro always
  have finite : FiniteTokens [text "again", text "http://a/again"] cyclingServer := {
    keys := by
      intro index response token isResponse isToken
      rw [← Except.ok.inj isResponse] at isToken
      exact List.mem_cons.mpr (.inl (Option.some.inj isToken).symm)
    versions := by
      intro index response marker token isResponse isMarker isToken
      rw [← Except.ok.inj isResponse] at isToken
      rcases List.mem_cons.mp isMarker with rfl | isVersion
      · exact List.mem_cons.mpr (.inl (Option.some.inj isToken).symm)
      · rw [List.mem_singleton.mp isVersion] at isToken
        exact nomatch isToken
    statement := by
      intro index page uri isPage isLink
      rw [← Document.object.inj (Except.ok.inj isPage)] at isLink
      exact List.mem_cons_of_mem _ (List.mem_singleton.mpr (NextUri.link.inj isLink).symm)
  }
  have stops := (always sampleValues (fun _ => false) (text "lake") [] [] [] cyclingServer _
    finite).keys
  obtain ⟨index, ends⟩ := (AuditListing.stops_complete_iff _ _ _).mp stops
  rcases ends with isLast | noToken
  · exact nomatch isLast
  · exact nomatch noToken

end PagingLoops
end Pipeline
end LakehouseOps
