import MemoryBank.Store.Catalogue
import MemoryBank.Store.Document

set_option autoImplicit false

/-!
The pipeline of a similarity search: the search itself in the dialect of the index, the score and
the stored document of each hit, and a filter on the hits if there is one.
-/

namespace MemoryBank.SimilarityQuery

def documentKey : String := "document"

def search (kind : IndexKind) (vector : Embedding) (count : Nat) : Object :=
  [("vector", vector.toJson), ("path", .string vectorPath), ("k", .ofNat count),
    (kind.searchOption, .ofNat kind.searchBreadth)]

def pipeline (kind : IndexKind) (vector : Embedding) (count : Nat) (filter : Option Document) :
    List Document :=
  [[("$search", .object [(vectorMark, .object (search kind vector count)),
      ("returnStoredSource", .bool true)])],
    [("$project", .object [(kind.scoreField, .object [("$meta", .string "searchScore")]),
      (documentKey, .string "$$ROOT")])]] ++
    match filter with
    | some filter => [[("$match", .object filter)]]
    | none => []

end MemoryBank.SimilarityQuery
