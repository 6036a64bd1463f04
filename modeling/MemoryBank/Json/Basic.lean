import MemoryBank.Number.Single

set_option autoImplicit false

/-!
Json values. An object is a list of entries in the order they were put; `Distinct` says that no
key occurs twice at any depth, which reading and all operations on objects keep.
-/

namespace MemoryBank

/-- `1` and `1.0` are different numbers. -/
inductive Number
  | int (n : Int)
  | float (x : Float)
  deriving DecidableEq, Inhabited

inductive Json
  | null
  | bool (b : Bool)
  | number (n : Number)
  | string (s : String)
  | array (items : List Json)
  | object (entries : List (String × Json))
  deriving Inhabited

abbrev Object := List (String × Json)

namespace Number

def inRange (n : Int) : Bool := -Word.half64 ≤ n && n < Word.bound64

def Valid : Number → Prop
  | .int n => inRange n = true
  | .float x => Binary64.finite x = true

def toFloat : Number → Float
  | .int n => Float.ofInt n
  | .float x => x

def toNat? : Number → Option Nat
  | .int n => if 0 ≤ n ∧ n < Word.bound64 then some n.toNat else none
  | .float _ => none

def toInt? : Number → Option Int
  | .int n => if -Word.half64 ≤ n ∧ n < Word.half64 then some n else none
  | .float _ => none

end Number

namespace Json

def ofInt (n : Int) : Json := .number (.int n)

def ofNat (n : Nat) : Json := .number (.int n)

/-- Infinities and the undefined value have no number, so they are null. -/
def ofFloat (x : Float) : Json := if Binary64.finite x then .number (.float x) else .null

def ofSingle (x : Single) : Json := ofFloat x.toFloat

def ofStrings (texts : List String) : Json := .array (texts.map .string)

def ofOption {α : Type} (f : α → Json) : Option α → Json
  | none => .null
  | some a => f a

def isNull : Json → Bool
  | .null => true
  | _ => false

def bool? : Json → Option Bool
  | .bool b => some b
  | _ => none

def nat? : Json → Option Nat
  | .number n => n.toNat?
  | _ => none

def int? : Json → Option Int
  | .number n => n.toInt?
  | _ => none

def float? : Json → Option Float
  | .number n => some n.toFloat
  | _ => none

def string? : Json → Option String
  | .string s => some s
  | _ => none

def array? : Json → Option (List Json)
  | .array items => some items
  | _ => none

def object? : Json → Option Object
  | .object entries => some entries
  | _ => none

mutual

/-- Numbers are in range and no object has a key twice. -/
def WellFormed : Json → Prop
  | .null | .bool _ | .string _ => True
  | .number n => n.Valid
  | .array items => WellFormedList items
  | .object entries => (entries.map (·.1)).Nodup ∧ WellFormedEntries entries

def WellFormedList : List Json → Prop
  | [] => True
  | v :: rest => WellFormed v ∧ WellFormedList rest

def WellFormedEntries : List (String × Json) → Prop
  | [] => True
  | (_, v) :: rest => WellFormed v ∧ WellFormedEntries rest

end

end Json

end MemoryBank
