import MemoryBank.Json.Object

set_option autoImplicit false

/-!
Equality of values: objects are equal whatever the order of their entries, an integer is never
equal to a float, and floats compare as numbers.
-/

namespace MemoryBank

def Number.same : Number → Number → Bool
  | .int m, .int n => m == n
  | .float x, .float y => x == y
  | _, _ => false

namespace Json

mutual

def same : Json → Json → Bool
  | .null, .null => true
  | .bool a, .bool b => a == b
  | .number m, .number n => m.same n
  | .string a, .string b => a == b
  | .array xs, .array ys => sameList xs ys
  | .object xs, .object ys => xs.length == ys.length && sameEntries xs ys
  | _, _ => false

def sameList : List Json → List Json → Bool
  | [], [] => true
  | x :: xs, y :: ys => same x y && sameList xs ys
  | _, _ => false

def sameEntries : List (String × Json) → Object → Bool
  | [], _ => true
  | (k, v) :: rest, other =>
      (match Object.get? other k with
        | some w => same v w
        | none => false) && sameEntries rest other

end

instance : BEq Json := ⟨same⟩

example : Json.object [("a", .ofInt 1), ("b", .null)] == .object [("b", .null), ("a", .ofInt 1)] :=
  by decide

end Json

def Object.same (a b : Object) : Bool := Json.same (.object a) (.object b)

end MemoryBank
