set_option autoImplicit false

/-!
Tables of a TOML document while it is being read. A table remembers how it came about, because that
decides who may still add to it: no table is defined twice.
-/

namespace MemoryBank.Toml

inductive Origin
  -- On the way to a table below it.
  | passed
  -- By the dots of a key.
  | dotted
  -- By a header of its own, or as the document itself.
  | headed
  deriving DecidableEq

inductive Value
  | text (s : String)
  | integer (n : Int)
  | float
  | bool (b : Bool)
  | date
  | array (items : List Value)
  | inline (entries : List (String × Value))
  deriving Inhabited

inductive Node
  | value (v : Value)
  | table (origin : Origin) (entries : List (String × Node))
  | tables (closed : List (List (String × Node))) (current : List (String × Node))
  deriving Inhabited

abbrev Entries := List (String × Node)

def Entries.get? : Entries → String → Option Node
  | [], _ => none
  | (k, n) :: rest, key => if k = key then some n else Entries.get? rest key

def Entries.put : Entries → String → Node → Entries
  | [], key, node => [(key, node)]
  | (k, n) :: rest, key, node =>
      if k = key then (k, node) :: rest else (k, n) :: Entries.put rest key node

/-- Defines `key = v` in a table, below the tables of `path`. The way leads through tables that have
no header of their own, and the last of them must have been made by dots. -/
def Entries.assign (v : Value) (key : String) : List String → Entries → Option Entries
  | [], es => if (Entries.get? es key).isSome then none else some (es ++ [(key, .value v)])
  | p :: path, es =>
      match Entries.get? es p with
      | none => do return es ++ [(p, .table .dotted (← Entries.assign v key path []))]
      | some (.table origin sub) =>
          if origin = .headed ∨ (path.isEmpty ∧ origin = .passed) then none
          else do return Entries.put es p (.table origin (← Entries.assign v key path sub))
      | some (.tables closed current) =>
          if path.isEmpty then none
          else do return Entries.put es p (.tables closed (← Entries.assign v key path current))
      | some (.value _) => none

/-- Changes the table a header leads to: `path` may pass through any table but an inline one, and
through an array of tables by its last. -/
def Entries.under (change : Entries → Option Entries) : List String → Entries → Option Entries
  | [], es => change es
  | p :: path, es =>
      match Entries.get? es p with
      | none => do return es ++ [(p, .table .passed (← Entries.under change path []))]
      | some (.table origin sub) => do
          return Entries.put es p (.table origin (← Entries.under change path sub))
      | some (.tables closed current) => do
          return Entries.put es p (.tables closed (← Entries.under change path current))
      | some (.value _) => none

def Entries.openTable (key : String) (es : Entries) : Option Entries :=
  match Entries.get? es key with
  | none => some (es ++ [(key, .table .headed [])])
  | some (.table .passed sub) => some (Entries.put es key (.table .headed sub))
  | some _ => none

def Entries.openElement (key : String) (es : Entries) : Option Entries :=
  match Entries.get? es key with
  | none => some (es ++ [(key, .tables [] [])])
  | some (.tables closed current) =>
      some (Entries.put es key (.tables (closed ++ [current]) []))
  | some _ => none

end MemoryBank.Toml
