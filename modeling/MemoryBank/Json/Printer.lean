import MemoryBank.Decimal.Shortest
import MemoryBank.Json.Basic

set_option autoImplicit false

/-!
Json text. `compact` has no white space; `pretty` puts each entry on a line of its own, two spaces
deeper than its parent.
-/

namespace MemoryBank.Json

def hexChar (d : Nat) : Char := if d < 10 then Char.ofNat (0x30 + d) else Char.ofNat (0x57 + d)

def escapeChar (c : Char) : List Char :=
  if c = '"' then ['\\', '"']
  else if c = '\\' then ['\\', '\\']
  else if c = '\x08' then ['\\', 'b']
  else if c = '\x0c' then ['\\', 'f']
  else if c = '\n' then ['\\', 'n']
  else if c = '\r' then ['\\', 'r']
  else if c = '\t' then ['\\', 't']
  else if c.toNat < 0x20 then
    ['\\', 'u', '0', '0', hexChar (c.toNat / 16), hexChar (c.toNat % 16)]
  else [c]

def stringChars (s : String) : List Char :=
  '"' :: (s.toList.flatMap escapeChar ++ ['"'])

/-- Where the point of a decimal goes: positional notation from `0.00001` up to sixteen digits
before the point, and always a digit on both sides; otherwise one digit before the point and a
signed exponent. -/
def decimalChars (d : Decimal.Numeral) : List Char :=
  let ds := Decimal.digits d.digits
  let point : Int := ds.length + d.exponent
  if 0 ≤ d.exponent ∧ point ≤ 16 then
    ds ++ List.replicate d.exponent.toNat '0' ++ ['.', '0']
  else if 0 < point ∧ point ≤ 16 then ds.take point.toNat ++ '.' :: ds.drop point.toNat
  else if -5 < point ∧ point ≤ 0 then
    '0' :: '.' :: (List.replicate (-point).toNat '0' ++ ds)
  else
    let exponent := point - 1
    let sign := if exponent < 0 then '-' else '+'
    let scale := 'e' :: sign :: Decimal.digits exponent.natAbs
    match ds with
    | [] => scale
    | [d] => d :: scale
    | d :: rest => d :: '.' :: (rest ++ scale)

def floatChars (x : Float) : List Char :=
  let sign := if Binary64.negative x then ['-'] else []
  let s := Binary64.scaled x
  sign ++ if s.mantissa = 0 then ['0', '.', '0'] else decimalChars (Decimal.shortest s)

def numberChars : Number → List Char
  | .int n => Decimal.ofInt n
  | .float x => floatChars x

def separated : List (List Char) → List Char
  | [] => []
  | [cs] => cs
  | cs :: rest => cs ++ ',' :: separated rest

mutual

def compactChars : Json → List Char
  | .null => ['n', 'u', 'l', 'l']
  | .bool true => ['t', 'r', 'u', 'e']
  | .bool false => ['f', 'a', 'l', 's', 'e']
  | .number n => numberChars n
  | .string s => stringChars s
  | .array items => '[' :: (separated (compactItems items) ++ [']'])
  | .object entries => '\x7b' :: (separated (compactEntries entries) ++ ['\x7d'])

def compactItems : List Json → List (List Char)
  | [] => []
  | v :: rest => compactChars v :: compactItems rest

def compactEntries : List (String × Json) → List (List Char)
  | [] => []
  | (k, v) :: rest => (stringChars k ++ ':' :: compactChars v) :: compactEntries rest

end

def compact (v : Json) : String := String.ofList (compactChars v)

def lineBreak (depth : Nat) : List Char := '\n' :: List.replicate (2 * depth) ' '

def block (depth : Nat) (opening closing : Char) : List (List Char) → List Char
  | [] => [opening, closing]
  | lines =>
      opening :: (separated (lines.map (lineBreak (depth + 1) ++ ·)) ++ lineBreak depth ++ [closing])

mutual

def prettyChars (depth : Nat) : Json → List Char
  | .array items => block depth '[' ']' (prettyItems (depth + 1) items)
  | .object entries => block depth '\x7b' '\x7d' (prettyEntries (depth + 1) entries)
  | .null => ['n', 'u', 'l', 'l']
  | .bool true => ['t', 'r', 'u', 'e']
  | .bool false => ['f', 'a', 'l', 's', 'e']
  | .number n => numberChars n
  | .string s => stringChars s

def prettyItems (depth : Nat) : List Json → List (List Char)
  | [] => []
  | v :: rest => prettyChars depth v :: prettyItems depth rest

def prettyEntries (depth : Nat) : List (String × Json) → List (List Char)
  | [] => []
  | (k, v) :: rest =>
      (stringChars k ++ ':' :: ' ' :: prettyChars depth v) :: prettyEntries depth rest

end

def pretty (v : Json) : String := String.ofList (prettyChars 0 v)

example : compact (.object [("a", .ofInt 1), ("b", .array [.null, .bool true])])
    = "\x7b\"a\":1,\"b\":[null,true]\x7d" := by decide +kernel
example : compact (.ofFloat 1.0e16) = "1e+16" := by decide +kernel
example : compact (.ofFloat 0.00001) = "0.00001" := by decide +kernel
example : compact (.ofFloat (-0.0)) = "-0.0" := by decide +kernel

end MemoryBank.Json
