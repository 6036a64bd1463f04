import MemoryBank.Number.Word
import MemoryBank.Toml.Lexical
import MemoryBank.Toml.Table

set_option autoImplicit false

/-!
Reading TOML documents: a document is read as a whole or not at all.
-/

namespace MemoryBank.Toml

def inWord (n : Int) : Bool := -Word.half64 ≤ n && n < Word.half64

def readBased (base : Nat) (isDigit : Char → Bool) (cs : List Char) :
    Option (Value × List Char) := do
  let (ds, rest) ← readDigits isDigit cs
  let n : Int := number base ds
  if inWord n then some (.integer n, rest) else none

def readFloatEnd (cs : List Char) : Option ((List Char × Int) × List Char) := do
  let (fraction, rest) ← match cs with
    | '.' :: rest => readDigits isDigit rest
    | _ => some ([], cs)
  let (exponent, rest) ← match rest with
    | 'e' :: more | 'E' :: more =>
        let (sign, more) : Int × List Char := match more with
          | '+' :: m => (1, m)
          | '-' :: m => (-1, m)
          | m => (1, m)
        do
          let (ds, more) ← readDigits isDigit more
          some (sign * (number 10 ds : Int), more)
    | _ => some ((0 : Int), rest)
  return ((fraction, exponent), rest)

/-- A float past the largest double cannot be read, but one below the least can. -/
def floatFits (sign : Int) (whole fraction : List Char) (exponent : Int) : Bool :=
  let significand := number 10 (whole ++ fraction)
  let exponent := exponent - fraction.length
  sign < 0 || significand == 0 || exponent + (whole.length + fraction.length) < 309 ||
    (exponent ≤ 400 && !(Float.ofScientific significand (exponent < 0) exponent.natAbs).isInf)

def readDecimal (sign : Int) (cs : List Char) : Option (Value × List Char) := do
  let (ds, rest) ← match cs with
    | '0' :: rest => some (['0'], rest)
    | _ => readDigits isDigit cs
  match rest with
  | '.' :: _ | 'e' :: _ | 'E' :: _ =>
      let ((fraction, exponent), rest) ← readFloatEnd rest
      if floatFits sign ds fraction exponent then some (.float, rest) else none
  | _ =>
      let n := sign * (number 10 ds : Int)
      if inWord n then some (.integer n, rest) else none

def readSigned (sign : Int) : List Char → Option (Value × List Char)
  | 'i' :: 'n' :: 'f' :: rest => some (.float, rest)
  | 'n' :: 'a' :: 'n' :: rest => some (.float, rest)
  | cs => readDecimal sign cs

def readNumber : List Char → Option (Value × List Char)
  | '0' :: 'x' :: rest => readBased 16 (fun c => (hexValue c).isSome) rest
  | '0' :: 'o' :: rest => readBased 8 (fun c => '0' ≤ c && c ≤ '7') rest
  | '0' :: 'b' :: rest => readBased 2 (fun c => c = '0' || c = '1') rest
  | '+' :: rest => readSigned 1 rest
  | '-' :: rest => readSigned (-1) rest
  | cs => readSigned 1 cs

def text (r : Option (List Char × List Char)) : Option (Value × List Char) :=
  r.map fun (cs, rest) => (.text (.ofList cs), rest)

def closeEntries : Nat → Entries → List (String × Value)
  -- An inline table's entries as a value: dots nest.
  | 0, _ => []
  | fuel + 1, es => es.map fun (k, n) => (k, match n with
      | .value v => v
      | .table _ sub => .inline (closeEntries fuel sub)
      | .tables _ _ => .inline [])

mutual

def readValue (depth : Nat) : Nat → List Char → Option (Value × List Char)
  | 0, _ => none
  | fuel + 1, cs =>
      match cs with
      | '"' :: '"' :: '"' :: rest => text (readMultiline '"' true rest)
      | '\'' :: '\'' :: '\'' :: rest => text (readMultiline '\'' false rest)
      | '"' :: rest => text (readBasic (rest.length + 1) rest)
      | '\'' :: rest => text (readLiteral rest)
      | '[' :: rest =>
          if depth + 1 < nestingLimit then
            (readItems (depth + 1) fuel rest).map fun (vs, r) => (.array vs, r)
          else none
      | '\x7b' :: rest =>
          if depth + 1 < nestingLimit then
            match skipBlanks rest with
            | '\x7d' :: rest => some (.inline [], rest)
            | rest => (readInline (depth + 1) fuel [] rest).map fun (es, r) =>
                (.inline (closeEntries (cs.length + 1) es), r)
          else none
      | 't' :: 'r' :: 'u' :: 'e' :: rest => some (.bool true, rest)
      | 'f' :: 'a' :: 'l' :: 's' :: 'e' :: rest => some (.bool false, rest)
      | cs =>
          match readDateTime cs with
          | some rest => some (.date, rest)
          | none => readNumber cs

def readItems (depth : Nat) : Nat → List Char → Option (List Value × List Char)
  -- The items up to the closing bracket; a comma may follow the last.
  | 0, _ => none
  | fuel + 1, cs =>
      match skipLines (cs.length + 1) cs with
      | ']' :: rest => some ([], rest)
      | cs => do
          let (v, rest) ← readValue depth fuel cs
          match skipLines (rest.length + 1) rest with
          | ',' :: rest =>
              let (vs, rest) ← readItems depth fuel rest
              return (v :: vs, rest)
          | ']' :: rest => return ([v], rest)
          | _ => none

def readInline (depth : Nat) : Nat → Entries → List Char → Option (Entries × List Char)
  | 0, _, _ => none
  | fuel + 1, soFar, cs => do
      let (key, rest) ← readKey cs
      let (v, rest) ← readValue depth fuel (skipBlanks (← readMark '=' rest))
      let soFar ← Entries.assign v (key.getLastD "") key.dropLast soFar
      match skipBlanks rest with
      | ',' :: rest => readInline depth fuel soFar rest
      | '\x7d' :: rest => some (soFar, rest)
      | _ => none

end

structure Progress where
  root : Entries
  header : List String
  deriving Inhabited

def Progress.assign (p : Progress) (key : List String) (v : Value) : Option Progress := do
  let root ← Entries.under (Entries.assign v (key.getLastD "") key.dropLast) p.header p.root
  return { p with root := root }

def Progress.enter (p : Progress) (key : List String)
    (start : String → Entries → Option Entries) : Option Progress := do
  let root ← Entries.under (start (key.getLastD "")) key.dropLast p.root
  return ⟨root, key⟩

def readLine (p : Progress) (cs : List Char) : Option (Progress × List Char) :=
  match skipBlanks cs with
  | '[' :: '[' :: rest => do
      let (key, rest) ← readKey rest
      let rest ← readMark ']' (← readMark ']' rest)
      return (← p.enter key Entries.openElement, rest)
  | '[' :: rest => do
      let (key, rest) ← readKey rest
      let rest ← readMark ']' rest
      return (← p.enter key Entries.openTable, rest)
  | [] => some (p, [])
  | cs@(c :: _) =>
      if c = '#' || c = '\n' || c = '\r' then some (p, cs)
      else do
        let (key, rest) ← readKey cs
        let rest := skipBlanks (← readMark '=' rest)
        let (v, rest) ← readValue 0 (2 * rest.length + 2) rest
        return (← p.assign key v, rest)

def readDocument : Nat → Progress → List Char → Option Progress
  | 0, _, _ => none
  | fuel + 1, p, cs => do
      let (p, rest) ← readLine p cs
      match skipComment rest with
      | [] => some p
      | rest => readDocument fuel p (← readNewline rest)

def parse (document : String) : Option Entries :=
  -- The tables and values of a document, which may start with a byte order mark.
  let cs := match document.toList with
    | '\uFEFF' :: rest => rest
    | cs => cs
  (readDocument (cs.length + 1) ⟨[], []⟩ cs).map (·.root)

end MemoryBank.Toml
