import MemoryBank.Store.Call
import MemoryBank.Store.Catalogue

set_option autoImplicit false

/-!
What is known about the vector index of a collection: the index a store reports, and the verdict of
holding it against the configured one.
-/

namespace MemoryBank

inductive IndexVerification
  -- There was no index, and one has been made.
  | created
  -- There is one of the configured kind.
  | matched
  -- There is one of another kind, under this name.
  | mismatch (observed : String)
  deriving DecidableEq, Inhabited

structure IndexStatus where
  configured : IndexKind
  verification : IndexVerification
  -- The kind that queries have to be written for.
  effective : IndexKind
  dimensions : Option Nat
  deriving DecidableEq, Inhabited

structure ObservedIndex where
  name : String
  kind : String
  dimensions : Option Nat
  metric : Option String
  deriving DecidableEq, Inhabited

def IndexStatus.isMismatch (s : IndexStatus) : Bool :=
  match s.verification with
  | .mismatch _ => true
  | _ => false

namespace IndexVerification

def toJson : IndexVerification → Json
  | created => .string "created"
  | matched => .string "match"
  | mismatch observed => .object [("mismatch", .string observed)]

def label : IndexVerification → String
  | created => "created"
  | matched => "matches configuration"
  | mismatch observed => "kind mismatch (found " ++ observed ++ ")"

end IndexVerification

namespace IndexStatus

def toJson (s : IndexStatus) : Json :=
  .object [("configured", s.configured.toJson), ("verification", s.verification.toJson),
    ("effective", s.effective.toJson), ("dimensions", Json.ofOption .ofNat s.dimensions),
    ("is_mismatch", .bool s.isMismatch)]

def created (d : IndexDescriptor) : IndexStatus where
  configured := d.kind
  verification := .created
  effective := d.kind
  dimensions := some d.dimensions

def judge (configured : IndexKind) (observed : ObservedIndex) : IndexStatus :=
  let known := IndexKind.ofStoreName? observed.kind
  if known = some configured then ⟨configured, .matched, configured, observed.dimensions⟩
  else ⟨configured, .mismatch observed.kind, known.getD configured, observed.dimensions⟩

end IndexStatus

namespace ObservedIndex

def ofSpec? (spec : Json) : Option ObservedIndex :=
  let options := IndexSpec.field? (some spec) vectorOptionsKey
  let text (name : String) : Option String := (IndexSpec.field? options name).bind (·.string?)
  if (IndexSpec.field? (IndexSpec.field? (some spec) "key") vectorPath).any IndexSpec.isMark then
    some {
      name := ((IndexSpec.field? (some spec) "name").bind (·.string?)).getD ""
      kind := (text "kind").getD ""
      dimensions :=
        match (IndexSpec.field? options "dimensions").bind (·.nat?) with
        | some n => if n < Word.bound32 then some n else none
        | none => none
      metric := text "similarity" }
  else none

def ofReply? (reply : Document) : Option ObservedIndex :=
  match IndexSpec.field? (reply.get? "cursor") "firstBatch" with
  | some (.array specs) => specs.findSome? ofSpec?
  | _ => none

def toJson (i : ObservedIndex) : Json :=
  .object [("name", .string i.name), ("kind", .string i.kind),
    ("dimensions", Json.ofOption .ofNat i.dimensions),
    ("similarity", Json.ofOption .string i.metric)]

end ObservedIndex

namespace IndexDescriptor

def buildOptions (d : IndexDescriptor) : Object :=
  match d.params with
  | .diskann maxDegree listSize => [("maxDegree", .ofNat maxDegree), ("lBuild", .ofNat listSize)]
  | .hnsw connections breadth =>
      [("m", .ofNat connections), ("efConstruction", .ofNat breadth)]

def spec (d : IndexDescriptor) : Document :=
  [("name", .string d.name), ("key", .object [(vectorPath, .string vectorMark)]),
    (vectorOptionsKey, .object <|
      [("kind", .string d.kind.storeName)] ++ d.buildOptions ++
        [("similarity", .string d.metric.storeName), ("dimensions", .ofNat d.dimensions)])]

def createCommand (d : IndexDescriptor) (collection : String) : Document :=
  Document.command createIndexesCommand collection ++ [("indexes", .array [.object d.spec])]

end IndexDescriptor

end MemoryBank
