import MemoryBank.Batch.Coordinator
import MemoryBank.Index.Descriptor

set_option autoImplicit false

/-!
The configuration, as written, and the settings it amounts to once it has been checked.
-/

namespace MemoryBank

structure Config where
  storeUri : String
  database : String
  collection : String
  embeddingDims : Nat
  indexKind : String
  defaultLifetime : Int
  maxBatchSize : Nat
  deriving DecidableEq, Inhabited

structure Settings where
  collection : String
  dimensions : Nat
  indexKind : IndexKind
  -- Seconds to live of a memory whose request names none; 0 for ever.
  defaultLifetime : Int
  maxBatchSize : Nat
  deriving DecidableEq, Inhabited

namespace Config

def default : Config where
  storeUri := "mongodb://localhost:27017"
  database := "docmem"
  collection := "memories"
  embeddingDims := 1536
  indexKind := "diskann"
  defaultLifetime := 0
  maxBatchSize := Coordinator.defaultMaxSize

def toJson (c : Config) : Json :=
  .object [("store_uri", .string c.storeUri), ("database", .string c.database),
    ("collection", .string c.collection), ("embedding_dims", .ofNat c.embeddingDims),
    ("index_kind", .string c.indexKind), ("default_ttl_seconds", .ofInt c.defaultLifetime),
    ("max_batch_size", .ofNat c.maxBatchSize)]

def fields : List Field :=
  [.defaulted "store_uri" Decode.text, .defaulted "database" Decode.text,
    .defaulted "collection" Decode.text, .defaulted "embedding_dims" Decode.word32,
    .defaulted "index_kind" Decode.text, .defaulted "default_ttl_seconds" Decode.int64,
    .defaulted "max_batch_size" Decode.size]

def decode (v : Json) : Except Mismatch Config := do
  let known ← Fields.read "DocmemConfig" fields v
  return {
    storeUri := ← Fields.getD known "store_uri" Decode.text default.storeUri
    database := ← Fields.getD known "database" Decode.text default.database
    collection := ← Fields.getD known "collection" Decode.text default.collection
    embeddingDims := ← Fields.getD known "embedding_dims" Decode.word32 default.embeddingDims
    indexKind := ← Fields.getD known "index_kind" Decode.text default.indexKind
    defaultLifetime :=
      ← Fields.getD known "default_ttl_seconds" Decode.int64 default.defaultLifetime
    maxBatchSize := ← Fields.getD known "max_batch_size" Decode.size default.maxBatchSize }

def settings (c : Config) : Result Settings := do
  let kind ← IndexKind.ofText c.indexKind
  if Text.isBlank c.collection then throw (.validation .blankCollection)
  if c.embeddingDims = 0 then throw (.validation .zeroEmbeddingDimensions)
  if c.maxBatchSize = 0 then throw (.validation .zeroBatchSize)
  if c.defaultLifetime < 0 then throw (.validation .negativeDefaultLifetime)
  return {
    collection := c.collection
    dimensions := c.embeddingDims
    indexKind := kind
    defaultLifetime := c.defaultLifetime
    maxBatchSize := c.maxBatchSize }

end Config

end MemoryBank
