import MemoryBank.Index.Kind
import MemoryBank.Number.Single

set_option autoImplicit false

/-!
Similarity of vectors, in double precision. Sums are taken from left to right.
-/

namespace MemoryBank.Similarity

/-- Starts from minus zero, which leaves every first term as it is. -/
def sum (xs : List Float) : Float := xs.foldl (· + ·) (-0.0)

def product (a b : Embedding) : Float :=
  sum (List.zipWith (fun x y => x.toFloat * y.toFloat) a b)

def norm (a : Embedding) : Float := (sum (a.map fun x => x.toFloat * x.toFloat)).sqrt

def distance (a b : Embedding) : Float :=
  (sum (List.zipWith (fun x y => (x.toFloat - y.toFloat) * (x.toFloat - y.toFloat)) a b)).sqrt

def cosine (a b : Embedding) : Float :=
  -- Nothing is similar to a vector of zeros.
  let norms := norm a * norm b
  if norms == 0.0 then 0.0 else product a b / norms

def score : Metric → Embedding → Embedding → Float
  | .innerProduct => product
  | .cosine => cosine
  | .euclidean => distance

end MemoryBank.Similarity
