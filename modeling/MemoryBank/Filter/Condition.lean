import MemoryBank.Failure
import MemoryBank.Json.Equality
import MemoryBank.NameMap

set_option autoImplicit false

/-!
Conditions on the fields of a payload. A bare value asks for equality; an object holds one operator,
`eq` or `in`, and nothing else is understood.
-/

namespace MemoryBank

abbrev Document := Object

/-- Equality of stored values: numbers are equal by their value as doubles. -/
def Json.equalValue : Json → Json → Bool
  | .number m, .number n => m.toFloat == n.toFloat
  | a, b => a == b

/-- What a stored field matches: a missing field counts as null, and an array matches as a whole or
by one of its elements. -/
def matchesValue (actual : Option Json) (expected : Json) : Bool :=
  match actual with
  | none | some .null => expected.isNull
  | some (.array items) =>
      Json.equalValue (.array items) expected || items.any (·.equalValue expected)
  | some v => v.equalValue expected

inductive Test
  | equals (value : Json)
  | oneOf (values : List Json)
  deriving Inhabited

def Test.holds : Test → Option Json → Bool
  | equals value, actual => matchesValue actual value
  | oneOf values, actual => values.any (matchesValue actual)

structure Condition where
  field : String
  test : Test
  deriving Inhabited

namespace Condition

def holds (c : Condition) (payload : Object) : Bool := c.test.holds (payload.get? c.field)

def parseOperator (field : String) : Object → Result Test
  | [("eq", value)] => .ok (.equals value)
  | [("in", .array values)] => .ok (.oneOf values)
  | [("in", _)] => .error (.validation (.membershipWithoutArray field))
  | [(operator, _)] => .error (.validation (.unsupportedOperator operator field))
  | _ => .error (.validation (.operatorCount field))

def parseTest (field : String) : Json → Result Test
  | .object o => parseOperator field o
  | v => .ok (.equals v)

def parse (field : String) (value : Json) : Result Condition :=
  if field.isEmpty then .error (.validation .emptyFilterField)
  else if field.toList.head? = some '$' then .error (.validation (.operatorAsField field))
  else (Condition.mk field) <$> parseTest field value

end Condition

abbrev Filters := NameMap Json

namespace Filters

def ofObject (o : Object) : Filters := NameMap.ofList o

def conditions (filters : Filters) : Result (List Condition) :=
  filters.entries.mapM fun e => Condition.parse e.1 e.2

end Filters

end MemoryBank
