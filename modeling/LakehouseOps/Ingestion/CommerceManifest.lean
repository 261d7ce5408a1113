import Mathlib.Data.List.Dedup
import Mathlib.Data.List.Sort
import Mathlib.Data.String.Basic
import LakehouseOps.Library.Fallible
import LakehouseOps.Library.Json

/-!
# Commerce manifests

The manifest of a batch is a JSON document that names four table files with their
checksums and row counts. The landing zone checks it before it writes anything. The
functions of the standard library that read and hash bytes are parameters.
-/

namespace LakehouseOps
namespace Ingestion

open Library Library.Fallible

/-- The contents of a file or of an object. -/
abbrev Bytes := List UInt8

/-- What Python's standard library computes from bytes. -/
structure Readers where
  /-- `json.loads(body.decode("utf-8"))` and `json.loads(body)`, where they return. -/
  loads : Bytes -> Option Json
  /-- `hashlib.sha256(body).hexdigest()` -/
  sha256 : Bytes -> String

/-- `MAX_COMMERCE_MANIFEST_BYTES` -/
def maxCommerceManifestBytes : Nat :=
  1048576

/-- A lowercase hexadecimal digit. -/
def isHexDigit (character : Char) : Bool :=
  ('0' ≤ character && character ≤ '9') || ('a' ≤ character && character ≤ 'f')

/-- A text of the given number of lowercase hexadecimal digits. -/
def isHex (count : Nat) (text : String) : Bool :=
  text.toList.length = count && text.toList.all isHexDigit

/-- The tables of a batch, in the order of their names. -/
def requiredTables : List String :=
  ["customers", "orders", "payments", "products"]

/-- The set of keys is that of the required tables. -/
def hasRequiredTables (tables : List (String × Json)) : Bool :=
  (tables.all fun entry => entry.1 ∈ requiredTables) &&
    requiredTables.all fun name => name ∈ tables.map Prod.fst

/-- The number of newlines. -/
def lineCount (body : Bytes) : Nat :=
  body.count 10

/-- The name of the file of a table. -/
def tableFile (name : String) : String :=
  name ++ ".jsonl"

/-! ## The checks of the landing zone -/

/-- What the landing zone takes from a manifest. -/
structure LandingManifest where
  batchId : String
  tables : List (String × Json)

/-- The part of `_load_fixture` that checks the document. -/
def checkManifest : Json -> Except String LandingManifest
  | .object manifest =>
      match manifest.lookup "schema_version" with
      | some (.int 1) =>
          match manifest.lookup "batch_id" with
          | some (.string batchId) =>
              if isHex 16 batchId then
                match manifest.lookup "tables" with
                | some (.object tables) =>
                    if hasRequiredTables tables then .ok { batchId, tables }
                    else .error "fixture table inventory is invalid"
                | _ => .error "fixture table inventory is invalid"
              else .error "fixture batch_id is invalid"
          | _ => .error "fixture batch_id is invalid"
      | _ => .error "fixture schema version is unsupported"
  | _ => .error "fixture manifest is invalid: expected an object"

/-- What a manifest states about a table. -/
structure TableEntry where
  rows : Int
  sha256 : String
  deriving DecidableEq

/-- The part of `_load_fixture` that checks the entry of a table. -/
def checkTableEntry (tables : List (String × Json)) (name : String) :
    Except String TableEntry :=
  match tables.lookup name with
  | some (.object details) =>
      match details.lookup "file" with
      | some (.string file) =>
          if file = tableFile name then
            match details.lookup "rows" with
            | some (.int rows) =>
                if rows < 1 then .error ("invalid row count for table: " ++ name)
                else
                  match details.lookup "sha256" with
                  | some (.string sha256) =>
                      if sha256.toList.length = 64 then .ok { rows, sha256 }
                      else .error ("invalid checksum for table: " ++ name)
                  | _ => .error ("invalid checksum for table: " ++ name)
            | _ => .error ("invalid row count for table: " ++ name)
          else .error "fixture table inventory is invalid"
      | _ => .error "fixture table inventory is invalid"
  | _ => .error ("invalid manifest entry for table: " ++ name)

/-- The checks of a file of a table: its checksum and its number of rows. -/
def checkTableContent (readers : Readers) (path : String) (entry : TableEntry) (body : Bytes) :
    Except String Unit := do
  reject (readers.sha256 body ≠ entry.sha256) ("fixture checksum verification failed: " ++ path)
  reject ((lineCount body : Int) ≠ entry.rows) ("fixture row count mismatch: " ++ path)

/-- A document that the landing zone accepts. -/
structure ManifestAccepted (json : Json) (manifest : LandingManifest) : Prop where
  shape : Exists fun entries => json = .object entries ∧
    entries.lookup "schema_version" = some (.int 1) ∧
    entries.lookup "batch_id" = some (.string manifest.batchId) ∧
    entries.lookup "tables" = some (.object manifest.tables)
  batchId : isHex 16 manifest.batchId = true
  tables : hasRequiredTables manifest.tables = true

theorem checkManifest_eq_ok_iff {json : Json} {manifest : LandingManifest} :
    checkManifest json = .ok manifest ↔ ManifestAccepted json manifest := by
  constructor
  · intro checked
    unfold checkManifest at checked
    split at checked <;> try contradiction
    split at checked <;> try contradiction
    next schema =>
      split at checked <;> try contradiction
      next batchId isBatchId =>
        split at checked <;> try contradiction
        next hex =>
          split at checked <;> try contradiction
          next tables isTables =>
            split at checked <;> try contradiction
            next required =>
              injection checked with same
              subst same
              exact ⟨⟨_, rfl, schema, isBatchId, isTables⟩, hex, required⟩
  · rintro ⟨⟨entries, rfl, schema, batchId, tables⟩, hex, required⟩
    simp [checkManifest, schema, batchId, tables, hex, required]

/-- An entry that the landing zone accepts. -/
structure EntryAccepted (tables : List (String × Json)) (name : String) (entry : TableEntry) :
    Prop where
  shape : Exists fun details => tables.lookup name = some (.object details) ∧
    details.lookup "file" = some (.string (tableFile name)) ∧
    details.lookup "rows" = some (.int entry.rows) ∧
    details.lookup "sha256" = some (.string entry.sha256)
  rows : 1 ≤ entry.rows
  sha256 : entry.sha256.toList.length = 64

theorem checkTableEntry_eq_ok_iff
    {tables : List (String × Json)}
    {name : String}
    {entry : TableEntry} :
    checkTableEntry tables name = .ok entry ↔ EntryAccepted tables name entry := by
  constructor
  · intro checked
    unfold checkTableEntry at checked
    split at checked <;> try contradiction
    next details isDetails =>
      split at checked <;> try contradiction
      next file isFile =>
        split at checked <;> try contradiction
        next sameFile =>
          split at checked <;> try contradiction
          next rows isRows =>
            split at checked <;> try contradiction
            next positive =>
              split at checked <;> try contradiction
              next sha256 isSha256 =>
                split at checked <;> try contradiction
                next length =>
                  injection checked with same
                  subst same
                  subst sameFile
                  exact ⟨⟨details, isDetails, isFile, isRows, isSha256⟩,
                    Int.not_lt.mp positive, length⟩
  · rintro ⟨⟨details, isDetails, file, rows, sha256⟩, positive, length⟩
    simp [checkTableEntry, isDetails, file, rows, sha256, length, Int.not_lt.mpr positive]

theorem checkTableContent_eq_ok_iff
    {readers : Readers}
    {path : String}
    {entry : TableEntry}
    {body : Bytes} :
    checkTableContent readers path entry body = .ok () ↔
      readers.sha256 body = entry.sha256 ∧ (lineCount body : Int) = entry.rows := by
  simp [checkTableContent, bind_eq_ok_iff]

end Ingestion
end LakehouseOps
