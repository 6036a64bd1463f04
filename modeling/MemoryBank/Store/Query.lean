import MemoryBank.Store.Path

set_option autoImplicit false

/-!
Which documents a filter selects. A filter is a document of conditions, all of which have to hold:
they are looked at in order, and the first that fails ends the search, so that an unknown operator
behind it goes unnoticed.
-/

namespace MemoryBank

namespace Query

def isOperator (key : String) : Bool := key.toList.head? == some '$'

def compare? : Option Json → Json → Option Ordering
  | some (.number m), .number n =>
      if m.toFloat < n.toFloat then some .lt
      else if m.toFloat == n.toFloat then some .eq
      else if n.toFloat < m.toFloat then some .gt
      else none
  | some (.string a), .string b => some (if a < b then .lt else if a = b then .eq else .gt)
  | some (.bool a), .bool b => some (compare a.toNat b.toNat)
  | _, _ => none

def ordered (test : Ordering → Bool) (actual : Option Json) (operand : Json) : Bool :=
  (compare? actual operand).any test

def member (operator : String) (actual : Option Json) : Json → Result Bool
  | .array options => .ok (options.any (matchesValue actual))
  | _ => .error (.store (.membershipWithoutArray operator))

def operatorHolds (actual : Option Json) (operand : Json) : String → Result Bool
  | "$eq" => .ok (matchesValue actual operand)
  | "$ne" => .ok (!matchesValue actual operand)
  | "$in" => member "$in" actual operand
  | "$nin" => (! ·) <$> member "$nin" actual operand
  | "$exists" => .ok (actual.isSome == operand.bool?.getD true)
  | "$lt" => .ok (ordered Ordering.isLT actual operand)
  | "$lte" => .ok (ordered Ordering.isLE actual operand)
  | "$gt" => .ok (ordered Ordering.isGT actual operand)
  | "$gte" => .ok (ordered Ordering.isGE actual operand)
  | operator => .error (.store (.unknownOperator operator))

def operatorsHold (actual : Option Json) : Object → Result Bool
  | [] => .ok true
  | (operator, operand) :: rest => do
      if ← operatorHolds actual operand operator then operatorsHold actual rest else return false

def operators? : Json → Option Object
  | .object o => if !o.isEmpty && o.all (isOperator ·.1) then some o else none
  | _ => none

def conditionHolds (actual : Option Json) (condition : Json) : Result Bool :=
  match operators? condition with
  | some o => operatorsHold actual o
  | none => .ok (matchesValue actual condition)

def checkItems (operator : String) (items : List Json) : Result Unit :=
  if items.isEmpty then .error (.store (.connectiveWithoutList operator))
  else if items.all (·.object?.isSome) then .ok ()
  else .error (.store (.connectiveEntryNotDocument operator))

def fieldHolds (d : Document) (key : String) (condition : Json) : Result Bool :=
  if isOperator key then .error (.store (.unknownConnective key))
  else conditionHolds (d.getPath? (Path.ofText key)) condition

mutual

def holds (d : Document) : List (String × Json) → Result Bool
  | [] => .ok true
  | (key, condition) :: rest => do
      if ← clauseHolds d key condition then holds d rest else return false

def clauseHolds (d : Document) (key : String) : Json → Result Bool
  | .array items =>
      if key = "$and" then do
        checkItems key items
        allHold d items
      else if key = "$or" then do
        checkItems key items
        anyHolds d items
      else fieldHolds d key (.array items)
  | condition =>
      if key = "$and" ∨ key = "$or" then .error (.store (.connectiveWithoutList key))
      else fieldHolds d key condition

def allHold (d : Document) : List Json → Result Bool
  | [] => .ok true
  | item :: rest => do if ← itemHolds d item then allHold d rest else return false

def anyHolds (d : Document) : List Json → Result Bool
  | [] => .ok false
  | item :: rest => do if ← itemHolds d item then return true else anyHolds d rest

def itemHolds (d : Document) : Json → Result Bool
  | .object filter => holds d filter
  | _ => .ok false

end

end Query

namespace Document

def satisfies (d filter : Document) : Result Bool := Query.holds d filter

def select (filter : Document) : List Document → Result (List Document)
  -- The documents a filter selects; one that cannot be judged makes the selection fail.
  | [] => .ok []
  | d :: rest => do
      let selected ← d.satisfies filter
      let others ← select filter rest
      return if selected then d :: others else others

def selectFirst (filter : Document) : Nat → List Document → Result (List Document)
  | 0, _ => .ok []
  | _ + 1, [] => .ok []
  | limit + 1, d :: rest => do
      if ← d.satisfies filter then
        return d :: (← selectFirst filter limit rest)
      else selectFirst filter (limit + 1) rest

end Document

end MemoryBank
