set_option autoImplicit false

/-!
The two kinds of vector index and the metrics they rank by, with the names the store knows them
under.
-/

namespace MemoryBank

inductive IndexKind
  -- A graph kept on disk, which may outgrow memory.
  | diskann
  -- A graph kept in memory.
  | hnsw
  deriving DecidableEq, Inhabited

inductive Metric
  | cosine
  | innerProduct
  | euclidean
  deriving DecidableEq, Inhabited

namespace IndexKind

def name : IndexKind → String
  | diskann => "diskann"
  | hnsw => "hnsw"

def storeName : IndexKind → String
  | diskann => "vector-diskann"
  | hnsw => "vector-hnsw"

def ofStoreName? : String → Option IndexKind
  | "vector-diskann" => some diskann
  | "vector-hnsw" => some hnsw
  | _ => none

def scoreField : IndexKind → String
  | diskann => "similarityScore"
  | hnsw => "score"

def searchOption : IndexKind → String
  | diskann => "lSearch"
  | hnsw => "efSearch"

def searchBreadth : IndexKind → Nat
  | diskann => 40
  | hnsw => 40

def buildOptions : IndexKind → List String
  | diskann => ["maxDegree", "lBuild"]
  | hnsw => ["m", "efConstruction"]

def other : IndexKind → IndexKind
  | diskann => hnsw
  | hnsw => diskann

@[simp] theorem ofStoreName?_storeName (kind : IndexKind) :
    ofStoreName? kind.storeName = some kind := by
  cases kind <;> rfl

theorem storeName_of_ofStoreName? {text : String} {kind : IndexKind}
    (h : ofStoreName? text = some kind) : kind.storeName = text := by
  unfold ofStoreName? at h
  split at h <;> cases h <;> rfl

end IndexKind

namespace Metric

def storeName : Metric → String
  | cosine => "COS"
  | innerProduct => "IP"
  | euclidean => "L2"

def ofStoreName? : String → Option Metric
  | "COS" => some cosine
  | "IP" => some innerProduct
  | "L2" => some euclidean
  | _ => none

@[simp] theorem ofStoreName?_storeName (metric : Metric) :
    ofStoreName? metric.storeName = some metric := by
  cases metric <;> rfl

end Metric

end MemoryBank
