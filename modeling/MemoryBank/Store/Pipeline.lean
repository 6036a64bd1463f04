import MemoryBank.Sorting
import MemoryBank.Store.Catalogue
import MemoryBank.Store.Document
import MemoryBank.Store.Query
import MemoryBank.Store.Similarity

set_option autoImplicit false

/-!
Aggregation pipelines. Each stage turns rows into rows; a search, which may only come first, finds
its rows through the vector index, best match first, and equal scores in the order of the ids.
-/

namespace MemoryBank

/-- A document on its way through a pipeline, with its similarity to what was searched for. -/
structure Row where
  document : Document
  score : Option Float

structure Collection where
  documents : List Document
  -- The specs of all indexes but the one on the ids.
  indexes : List Document
  deriving Inhabited

namespace Collection

def empty : Collection := ⟨[], []⟩

def rows (c : Collection) : List Row := c.documents.map fun d => ⟨d, none⟩

end Collection

namespace Search

def idBefore (a b : Document) : Bool :=
  match a.id?, b.id? with
  | none, some _ => true
  | some x, some y => x < y
  | _, none => false

def before (metric : Metric) (a b : Row) : Bool :=
  -- Better scores come first; those not told apart, in the order of the ids.
  let x := a.score.getD 0.0
  let y := b.score.getD 0.0
  let (better, worse) : Bool × Bool := match metric with
    | .euclidean => (x < y, y < x)
    | _ => (y < x, x < y)
  better || (!worse && idBefore a.document b.document)

def checkOptions (index : VectorIndex) (search : Object) : Result Unit :=
  search.forM fun e =>
    if ["vector", "path", "k", index.kind.searchOption].contains e.1 then .ok ()
    else .error (.store (.foreignSearchOption index.kind e.1))

def scored (index : VectorIndex) (query : Embedding) (documents : List Document) : List Row :=
  documents.filterMap fun d => do
    let stored ← (d.get? index.path).bind Embedding.ofJson?
    if stored.length = query.length then
      some ⟨d, some (Similarity.score index.metric query stored)⟩
    else none

def request (stage : Json) : Result Object :=
  match IndexSpec.field? (some stage) vectorMark with
  | some (.object search) => .ok search
  | _ => .error (.store .searchWithoutOperator)

def searched (c : Collection) : Result VectorIndex :=
  match Catalogue.searched? c.indexes with
  | some index => .ok index
  | none => .error (.store .searchWithoutIndex)

def query (index : VectorIndex) (search : Object) : Result Embedding :=
  match (Object.get? search "vector").bind Embedding.ofJson? with
  | some query =>
      if query.length = index.dimensions then .ok query
      else .error (.store (.queryDimensions query.length index.dimensions))
  | none => .error (.store .queryNotVector)

def checkPath (index : VectorIndex) (search : Object) : Result Unit :=
  let path := ((Object.get? search "path").bind (·.string?)).getD ""
  if path = index.path then .ok () else .error (.store (.pathNotIndexed path))

def count (search : Object) : Result Nat :=
  match (Object.get? search "k").bind (·.nat?) with
  | some (n + 1) => .ok (n + 1)
  | _ => .error (.store .badHitCount)

def run (c : Collection) (stage : Json) : Result (List Row) := do
  let search ← request stage
  let index ← searched c
  checkOptions index search
  let query ← query index search
  checkPath index search
  let count ← count search
  return (stableSort (before index.metric) (scored index query c.documents)).take count

end Search

namespace Projection

def value (row : Row) (field : String) (expression : Json) : Result (Option Json) :=
  -- The value of a projected field; some fields are left out where the document has none.
  let unsupported : Result (Option Json) :=
    .error (.store (.unsupportedProjection field expression))
  let kept : Option Json := row.document.getPath? (Path.ofText field)
  match expression with
  | .object o =>
      match Object.get? o "$meta" with
      | some (.string "searchScore") => .ok (some (Json.ofOption Json.ofFloat row.score))
      | _ => unsupported
  | .string s =>
      if s = "$$ROOT" then .ok (some (.object row.document))
      else match s.toList with
        | '$' :: path =>
            .ok (some ((row.document.getPath? (Path.ofText (String.ofList path))).getD .null))
        | _ => unsupported
  | .bool true => .ok kept
  | .number n => if n = .int 0 then unsupported else .ok kept
  | _ => unsupported

def excludesId (spec : Object) : Bool :=
  match spec.get? Document.idKey with
  | some (.number n) => n == .int 0
  | some (.bool b) => !b
  | _ => false

def fields (row : Row) : Object → Document → Result Document
  | [], out => .ok out
  | (field, expression) :: rest, out =>
      if field = Document.idKey then fields row rest out
      else do
        match ← value row field expression with
        | some v => fields row rest (out.insert field v)
        | none => fields row rest out

def apply (spec : Object) (row : Row) : Result Row := do
  -- The id stays unless it is excluded.
  let id : Document :=
    if excludesId spec then []
    else match row.document.get? Document.idKey with
      | some id => [(Document.idKey, id)]
      | none => []
  return ⟨← fields row spec id, row.score⟩

end Projection

namespace Pipeline

def selectRows (filter : Document) : List Row → Result (List Row)
  | [] => .ok []
  | row :: rest => do
      let selected ← row.document.satisfies filter
      let others ← selectRows filter rest
      return if selected then row :: others else others

/-- One stage; without rows from a stage before it works on the whole collection. -/
def stage (c : Collection) (first : Bool) (rows : List Row) (name : String) (spec : Json) :
    Result (List Row) :=
  match name with
  | "$search" => if first then Search.run c spec else .error (.store .searchNotFirst)
  | "$project" =>
      match spec with
      | .object fields => rows.mapM (Projection.apply fields)
      | _ => .error (.store .projectionNotDocument)
  | "$match" =>
      match spec with
      | .object filter => selectRows filter rows
      | _ => .error (.store .matchNotDocument)
  | "$limit" =>
      match spec.nat? with
      | some (n + 1) => .ok (rows.take (n + 1))
      | _ => .error (.store .badLimit)
  | name => .error (.store (.unknownStage name))

def stages (c : Collection) : Bool → List Document → List Row → Result (List Row)
  | _, [], rows => .ok rows
  | first, [(name, spec)] :: rest, rows => do stages c false rest (← stage c first rows name spec)
  | _, _ :: _, _ => .error (.store .stageFieldCount)

def run (c : Collection) (pipeline : List Document) : Result (List Document) := do
  return (← stages c true pipeline c.rows).map (·.document)

end Pipeline

end MemoryBank
