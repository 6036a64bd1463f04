import MemoryBank.Filter.Condition

set_option autoImplicit false

/-!
Conditions written as a predicate of the store, a conjunction with one clause for each condition.
-/

namespace MemoryBank

def storedPayloadPath : String := "payload."

def searchedPayloadPath : String := "document.payload."

def Test.clause (path : String) : Test → Json
  | .equals value => .object [(path, value)]
  | .oneOf values => .object [(path, .object [("$in", .array values)])]

def Condition.clause (base : String) (c : Condition) : Json := c.test.clause (base ++ c.field)

namespace Filters

def predicate? (filters : Filters) (base : String) : Result (Option Document) := do
  -- No condition, no predicate.
  let conditions ← filters.conditions
  if conditions.isEmpty then return none
  return some [("$and", .array (conditions.map (·.clause base)))]

def predicate (filters : Filters) (base : String) : Result Document := do
  -- The empty predicate holds of every document.
  return (← filters.predicate? base).getD []

end Filters

end MemoryBank
