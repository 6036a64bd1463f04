import MemoryBank.Decode.Fields
import MemoryBank.Failure
import MemoryBank.Text.LetterCase

set_option autoImplicit false

/-!
Descriptions of the vector index a collection should carry.
-/

namespace MemoryBank

inductive IndexParams
  | diskann (maxDegree listSize : Nat)
  | hnsw (connections buildBreadth : Nat)
  deriving DecidableEq

structure IndexDescriptor where
  name : String
  dimensions : Nat
  metric : Metric
  params : IndexParams
  deriving DecidableEq

namespace IndexKind

def defaultParams : IndexKind → IndexParams
  | diskann => .diskann 32 50
  | hnsw => .hnsw 16 64

def ofText (text : String) : Result IndexKind :=
  -- Takes the short and the store's name, in either case and with white space around it.
  match Text.lower (Text.trim text) with
  | "diskann" | "vector-diskann" => .ok diskann
  | "hnsw" | "vector-hnsw" => .ok hnsw
  | name => .error (.validation (.unknownIndexKind name))

def toJson (kind : IndexKind) : Json := .string kind.name

end IndexKind

namespace Metric

def decode : Decoder Metric :=
  Decode.variant [("COS", cosine), ("IP", innerProduct), ("L2", euclidean)]

def toJson (metric : Metric) : Json := .string metric.storeName

end Metric

namespace IndexParams

def kind : IndexParams → IndexKind
  | diskann .. => .diskann
  | hnsw .. => .hnsw

def toJson : IndexParams → Json
  | diskann maxDegree listSize =>
      .object [("kind", .string "diskann"), ("max_degree", .ofNat maxDegree),
        ("l_build", .ofNat listSize)]
  | hnsw connections buildBreadth =>
      .object [("kind", .string "hnsw"), ("m", .ofNat connections),
        ("ef_construction", .ofNat buildBreadth)]

def decodeTag : Decoder IndexKind
  | .string name => Decode.named [("diskann", .diskann), ("hnsw", .hnsw)] name
  | v => Decode.mismatch "variant identifier" v

def fields : IndexKind → List Field
  | .diskann => [.required "max_degree" Decode.word32, .required "l_build" Decode.word32]
  | .hnsw => [.required "m" Decode.word32, .required "ef_construction" Decode.word32]

def ofFields (kind : IndexKind) (known : Object) : Except Mismatch IndexParams :=
  match kind with
  | .diskann => do
      return .diskann (← Fields.get known "max_degree" Decode.word32)
        (← Fields.get known "l_build" Decode.word32)
  | .hnsw => do
      return .hnsw (← Fields.get known "m" Decode.word32)
        (← Fields.get known "ef_construction" Decode.word32)

def variantName : IndexKind → String
  | .diskann => "struct variant IndexParams::DiskAnn"
  | .hnsw => "struct variant IndexParams::Hnsw"

def ofElements (kind : IndexKind) (items : List Json) : Except Mismatch IndexParams := do
  let fs := fields kind
  if fs.length < items.length then
    let _ ← (fs.zip items).mapM fun p => p.1.check p.2
    throw (.wrongLength items.length (Fields.elementCount fs ++ " in sequence"))
  ofFields kind (← Fields.ofElements (variantName kind) fs items fs items)

def decode : Decoder IndexParams
  -- The tag may stand anywhere in an object, and comes first in a sequence.
  | .object o => do
      match Object.get? o "kind" with
      | none => throw (.missingField "kind")
      | some tag =>
          let kind ← decodeTag tag
          ofFields kind (← Fields.ofObject (fields kind) (o.filter (·.1 != "kind"))).1
  | .array [] => .error (.missingField "kind")
  | .array (tag :: items) => do ofElements (← decodeTag tag) items
  | v => Decode.mismatch "internally tagged enum IndexParams" v

end IndexParams

namespace IndexDescriptor

def kind (d : IndexDescriptor) : IndexKind := d.params.kind

def indexName (collection : String) : String := collection ++ "_vector_index"

def forCollection (collection : String) (kind : IndexKind) (dimensions : Nat) : IndexDescriptor where
  name := indexName collection
  dimensions := dimensions
  metric := .cosine
  params := kind.defaultParams

def fields : List Field :=
  [.required "name" Decode.text, .required "dimensions" Decode.word32,
    .required "similarity" Metric.decode, .required "params" IndexParams.decode]

def decode (v : Json) : Except Mismatch IndexDescriptor := do
  let known ← Fields.read "IndexDescriptor" fields v
  return {
    name := ← Fields.get known "name" Decode.text
    dimensions := ← Fields.get known "dimensions" Decode.word32
    metric := ← Fields.get known "similarity" Metric.decode
    params := ← Fields.get known "params" IndexParams.decode }

def toJson (d : IndexDescriptor) : Json :=
  .object [("name", .string d.name), ("dimensions", .ofNat d.dimensions),
    ("similarity", d.metric.toJson), ("params", d.params.toJson)]

@[simp] theorem kind_forCollection (collection : String) (kind : IndexKind) (dimensions : Nat) :
    (forCollection collection kind dimensions).kind = kind := by
  cases kind <;> rfl

end IndexDescriptor

end MemoryBank
