import MemoryBank.Decode.Mismatch
import MemoryBank.Index.Kind

set_option autoImplicit false

/-!
Why an operation fails. A request is refused as invalid, the store cannot do what it is asked, or
what is asked for is not there.
-/

namespace MemoryBank

inductive Invalid
  | emptyFilterField
  | operatorAsField (field : String)
  | operatorCount (field : String)
  | membershipWithoutArray (field : String)
  | unsupportedOperator (operator field : String)
  | unknownIndexKind (name : String)
  | noOwner
  | emptyId
  | recordDimensions (id : String) (found expected : Nat)
  | recordWithoutOwner (id : String)
  | blankMessages
  | negativeLifetime
  | zeroLimit
  | blankCollection
  | zeroEmbeddingDimensions
  | zeroBatchSize
  | negativeDefaultLifetime
  | unknownCategory (name : String)
  | categoryNotText (value : Json)
  | expiryNotInteger
  | lifetimeTooLong
  | batchTooLarge (size limit : Nat)
  | vectorDimensions (found expected : Nat)
  | reservedKey (key : String)
  | badKey (key : String)
  | zeroDimensions
  | otherDimensions (collection : String) (indexed requested : Nat)
  | unevenLengths (ids vectors payloads : Nat)
  | zeroHits
  | emptyChange
  | blankContent
  | reported (text : String)
  deriving Inhabited

inductive StoreFault
  | unreachable
  | noIndexSpecs
  | specNotDocument
  | specWithoutName
  | specWithoutKey
  | vectorSpecWithoutOptions
  | unsupportedIndexKind (name : String)
  | badDimensions
  | unsupportedMetric (name : String)
  | missingBuildOption (kind : IndexKind) (option : String)
  | foreignBuildOption (kind : IndexKind) (option : String)
  | indexDiffers (name : Json)
  | secondVectorIndex
  | commandWithoutCollection (command : String)
  | searchWithoutOperator
  | searchWithoutIndex
  | foreignSearchOption (kind : IndexKind) (option : String)
  | queryNotVector
  | queryDimensions (found expected : Nat)
  | pathNotIndexed (path : String)
  | badHitCount
  | collectionExists (name : String)
  | unknownCommand (name : String)
  | duplicateId (collection : String) (id : Json)
  | stageFieldCount
  | searchNotFirst
  | projectionNotDocument
  | matchNotDocument
  | badLimit
  | unknownStage (name : String)
  | unknownConnective (operator : String)
  | connectiveWithoutList (operator : String)
  | connectiveEntryNotDocument (operator : String)
  | membershipWithoutArray (operator : String)
  | unknownOperator (operator : String)
  | emptyUpdate
  | modifierNotDocument (modifier : String)
  | idChange
  | unknownModifier (modifier : String)
  | pathThroughValue (field parent : String)
  | unsupportedProjection (field : String) (expression : Json)
  | malformedPayload (cause : Mismatch)
  | noId
  | noPayload (id : String)
  | noStoredDocument
  | noEmbedding
  | reported (text : String)
  deriving Inhabited

inductive Missing
  | collection (name : String)
  | memory (id : String)
  | reported (text : String)
  deriving Inhabited

inductive Failure
  | validation (cause : Invalid)
  | store (cause : StoreFault)
  | notFound (what : Missing)
  deriving Inhabited

abbrev Result (α : Type) := Except Failure α

def Invalid.message : Invalid → String
  | emptyFilterField => "filter field must not be empty"
  | operatorAsField field => "filter field '" ++ field ++ "' must not start with '$'"
  | operatorCount field => "filter on '" ++ field ++ "' must contain exactly one operator"
  | membershipWithoutArray field => "operator 'in' on '" ++ field ++ "' requires an array"
  | unsupportedOperator operator field =>
      "unsupported filter operator '" ++ operator ++ "' on '" ++ field ++ "'"
  | unknownIndexKind name =>
      "unknown index kind '" ++ name ++ "' (expected 'diskann' or 'hnsw')"
  | noOwner => "at least one of user_id, agent_id, or session_id must be provided"
  | emptyId => "record id must not be empty"
  | recordDimensions id found expected =>
      "record '" ++ id ++ "' has " ++ Decimal.render found ++ " dimensions, collection expects "
        ++ Decimal.render expected
  | recordWithoutOwner id =>
      "record '" ++ id ++ "': validation error: "
        ++ "at least one of user_id, agent_id, or session_id must be provided"
  | blankMessages => "messages must not be empty"
  | negativeLifetime => "ttl_seconds must not be negative"
  | zeroLimit => "limit must be at least 1"
  | blankCollection => "collection name must not be empty"
  | zeroEmbeddingDimensions => "embedding_dims must be positive"
  | zeroBatchSize => "max_batch_size must be positive"
  | negativeDefaultLifetime => "default_ttl_seconds must not be negative"
  | unknownCategory name => "invalid memory category: '" ++ name ++ "'"
  | categoryNotText value => "category must be a string, got " ++ value.compact
  | expiryNotInteger => "expires_at must be an integer"
  | lifetimeTooLong => "ttl_seconds too large"
  | batchTooLarge size limit =>
      "batch of " ++ Decimal.render size ++ " items exceeds the maximum of "
        ++ Decimal.render limit
  | vectorDimensions found expected =>
      "vector has " ++ Decimal.render found ++ " dimensions, collection expects "
        ++ Decimal.render expected
  | reservedKey key => "metadata key '" ++ key ++ "' is reserved"
  | badKey key => "metadata key '" ++ key ++ "' is not a valid field name"
  | zeroDimensions => "dimensions must be positive"
  | otherDimensions collection indexed requested =>
      "collection '" ++ collection ++ "' is indexed at " ++ Decimal.render indexed
        ++ " dimensions, requested " ++ Decimal.render requested
  | unevenLengths ids vectors payloads =>
      "ids, vectors and payloads differ in length (" ++ Decimal.render ids ++ ", "
        ++ Decimal.render vectors ++ ", " ++ Decimal.render payloads ++ ")"
  | zeroHits => "k must be at least 1"
  | emptyChange => "update must change content, metadata or vector"
  | blankContent => "memory content must not be empty"
  | reported text => text

def StoreFault.message : StoreFault → String
  | unreachable => "connection refused: document store unreachable"
  | noIndexSpecs => "createIndexes requires a non-empty 'indexes' array"
  | specNotDocument => "index spec must be a document"
  | specWithoutName => "index spec requires a 'name'"
  | specWithoutKey => "index spec requires a 'key' document"
  | vectorSpecWithoutOptions => "cosmosSearch index requires 'cosmosSearchOptions'"
  | unsupportedIndexKind name => "unsupported vector index kind '" ++ name ++ "'"
  | badDimensions => "'dimensions' must be a positive integer"
  | unsupportedMetric name => "unsupported similarity '" ++ name ++ "'"
  | missingBuildOption kind option =>
      kind.storeName ++ " index requires a positive '" ++ option ++ "'"
  | foreignBuildOption kind option =>
      "'" ++ option ++ "' is not a valid option for a " ++ kind.storeName ++ " index"
  | indexDiffers name =>
      "Index already exists with a different definition: " ++ name.compact
  | secondVectorIndex => "only one vector index per path is supported"
  | commandWithoutCollection command => command ++ " requires a collection name"
  | searchWithoutOperator => "$search requires a 'cosmosSearch' operator"
  | searchWithoutIndex => "$search requires a vector index on the collection"
  | foreignSearchOption kind option =>
      "'" ++ option ++ "' is not a valid search option for a " ++ kind.storeName ++ " index"
  | queryNotVector => "cosmosSearch.vector must be an array of numbers"
  | queryDimensions found expected =>
      "query vector has " ++ Decimal.render found ++ " dimensions, index expects "
        ++ Decimal.render expected
  | pathNotIndexed path => "cosmosSearch.path '" ++ path ++ "' is not indexed"
  | badHitCount => "cosmosSearch.k must be a positive integer"
  | collectionExists name => "Collection already exists. NS: " ++ name
  | unknownCommand name => "no such command: '" ++ name ++ "'"
  | duplicateId collection id =>
      "E11000 duplicate key error collection: " ++ collection ++ " dup key: \x7b _id: "
        ++ id.compact ++ " \x7d"
  | stageFieldCount => "a pipeline stage must have exactly one field"
  | searchNotFirst => "$search is only valid as the first stage"
  | projectionNotDocument => "$project requires a document"
  | matchNotDocument => "$match requires a document"
  | badLimit => "$limit must be a positive integer"
  | unknownStage name => "Unrecognized pipeline stage name: '" ++ name ++ "'"
  | unknownConnective operator => "unknown top level operator: " ++ operator
  | connectiveWithoutList operator => operator ++ " argument must be a non-empty array"
  | connectiveEntryNotDocument operator => operator ++ " entries must be documents"
  | membershipWithoutArray operator => operator ++ " needs an array"
  | unknownOperator operator => "unknown operator: " ++ operator
  | emptyUpdate => "update document must not be empty"
  | modifierNotDocument modifier => modifier ++ " requires a document"
  | idChange =>
      "Performing an update on the path '_id' would modify the immutable field '_id'"
  | unknownModifier modifier => "Unknown modifier: " ++ modifier
  | pathThroughValue field parent =>
      "Cannot create field '" ++ field ++ "' in non-document '" ++ parent ++ "'"
  | unsupportedProjection field expression =>
      "unsupported $project expression for '" ++ field ++ "': " ++ expression.compact
  | malformedPayload cause => "malformed stored payload: " ++ cause.message
  | noId => "stored document has no _id"
  | noPayload id => "stored document '" ++ id ++ "' has no payload"
  | noStoredDocument => "search result has no stored document"
  | noEmbedding => "embedder returned no vector"
  | reported text => text

def Missing.message : Missing → String
  | collection name => "ns does not exist: " ++ name
  | memory id => "memory '" ++ id ++ "'"
  | reported text => text

def Failure.message : Failure → String
  | validation cause => "validation error: " ++ cause.message
  | store cause => "store error: " ++ cause.message
  | notFound what => "not found: " ++ what.message

def Failure.isNotFound : Failure → Bool
  | notFound _ => true
  | _ => false

end MemoryBank
