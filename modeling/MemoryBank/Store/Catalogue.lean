import MemoryBank.Index.Descriptor
import MemoryBank.Filter.Condition

set_option autoImplicit false

/-!
The indexes of a collection, as specs: what makes a spec valid, which vector index it describes, and
how specs are added.
-/

namespace MemoryBank

def vectorMark : String := "cosmosSearch"

def vectorOptionsKey : String := "cosmosSearchOptions"

structure VectorIndex where
  path : String
  kind : IndexKind
  dimensions : Nat
  metric : Metric
  deriving DecidableEq

namespace IndexSpec

def isMark : Json → Bool
  | .string s => s == vectorMark
  | _ => false

def field? (v : Option Json) (name : String) : Option Json :=
  match v with
  | some (.object o) => Object.get? o name
  | _ => none

def vectorPath? (spec : Document) : Option String :=
  match spec.get? "key" with
  | some (.object key) => (key.find? (isMark ·.2)).map (·.1)
  | _ => none

def vectorIndex? (spec : Document) : Option VectorIndex := do
  let path ← vectorPath? spec
  let options := spec.get? vectorOptionsKey
  return {
    path := path
    kind := ← IndexKind.ofStoreName? (← (← field? options "kind").string?)
    dimensions := ← (← field? options "dimensions").nat?
    metric := ← Metric.ofStoreName? (← (← field? options "similarity").string?) }

def isPositive (options : Object) (name : String) : Bool :=
  match (options.get? name).bind (·.nat?) with
  | some n => 0 < n
  | none => false

def textOf (options : Object) (name : String) : String :=
  ((options.get? name).bind (·.string?)).getD ""

def validateOptions (options : Object) : Result Unit := do
  let kind ← match IndexKind.ofStoreName? (textOf options "kind") with
    | some kind => .ok kind
    | none => .error (.store (.unsupportedIndexKind (textOf options "kind")))
  if !isPositive options "dimensions" then throw (.store .badDimensions)
  if (Metric.ofStoreName? (textOf options "similarity")).isNone then
    throw (.store (.unsupportedMetric (textOf options "similarity")))
  match kind.buildOptions.find? (!isPositive options ·) with
  | some missing => throw (.store (.missingBuildOption kind missing))
  | none => pure ()
  match kind.other.buildOptions.find? (options.contains ·) with
  | some extra => throw (.store (.foreignBuildOption kind extra))
  | none => pure ()

def validate (spec : Document) : Result Unit := do
  if ((spec.get? "name").bind (·.string?)).all (·.isEmpty) then throw (.store .specWithoutName)
  match spec.get? "key" with
  | some (.object (e :: key)) =>
      if (e :: key).any (isMark ·.2) then
        match spec.get? vectorOptionsKey with
        | some (.object options) => validateOptions options
        | _ => throw (.store .vectorSpecWithoutOptions)
  | _ => throw (.store .specWithoutKey)

def ofValues (values : List Json) : Result (List Document) :=
  values.mapM fun v => match v with
    | .object spec => do
        validate spec
        return spec
    | _ => .error (.store .specNotDocument)

end IndexSpec

namespace Catalogue

def add (catalogue : List Document) (spec : Document) : Result (List Document) :=
  -- The catalogue with one spec more, unless it has the same already.
  let name := spec.get? "name"
  match catalogue.find? (·.get? "name" == name) with
  | some existing =>
      if existing.same spec then .ok catalogue
      else .error (.store (.indexDiffers (name.getD .null)))
  | none =>
      let path := IndexSpec.vectorPath? spec
      if path.isSome && catalogue.any (IndexSpec.vectorPath? · == path) then
        .error (.store .secondVectorIndex)
      else .ok (catalogue ++ [spec])

def addAll : List Document → List Document → Result Unit × List Document
  -- Adds specs in order and keeps those before the first that fails.
  | [], catalogue => (.ok (), catalogue)
  | spec :: rest, catalogue =>
      match add catalogue spec with
      | .ok catalogue => addAll rest catalogue
      | .error cause => (.error cause, catalogue)

def searched? (catalogue : List Document) : Option VectorIndex :=
  catalogue.findSome? IndexSpec.vectorIndex?

end Catalogue

end MemoryBank
