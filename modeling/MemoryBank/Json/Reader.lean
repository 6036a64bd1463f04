import MemoryBank.Decimal.Reading
import MemoryBank.Json.Equality

set_option autoImplicit false

/-!
Json text. Each reader takes what is left of the text and returns a value with the rest.
An integer that fits no word of 64 bits, and minus zero, are read as floats; a key given twice
keeps its first place and its last value.
-/

namespace MemoryBank.Json

def isSpace (c : Char) : Bool := c = ' ' || c = '\n' || c = '\t' || c = '\r'

def isDigit (c : Char) : Bool := '0' ≤ c && c ≤ '9'

def skipSpace (cs : List Char) : List Char := cs.dropWhile isSpace

def hexValue (c : Char) : Option Nat :=
  if isDigit c then some (c.toNat - 0x30)
  else if 'a' ≤ c ∧ c ≤ 'f' then some (c.toNat - 0x57)
  else if 'A' ≤ c ∧ c ≤ 'F' then some (c.toNat - 0x37)
  else none

def readHex4 : List Char → Option (Nat × List Char)
  | a :: b :: c :: d :: rest => do
      let a ← hexValue a
      let b ← hexValue b
      let c ← hexValue c
      let d ← hexValue d
      some (((a * 16 + b) * 16 + c) * 16 + d, rest)
  | _ => none

def readExpected : List Char → List Char → Option (List Char)
  | [], cs => some cs
  | e :: es, c :: cs => if e = c then readExpected es cs else none
  | _ :: _, [] => none

def readEscapedUnit (cs : List Char) : Option (Char × List Char) := do
  -- The character after `\u`; one beyond the first plane is written as a pair of surrogates.
  let (high, rest) ← readHex4 cs
  if 0xD800 ≤ high ∧ high < 0xDC00 then
    let (low, rest) ← readHex4 (← readExpected ['\\', 'u'] rest)
    if 0xDC00 ≤ low ∧ low < 0xE000 then
      some (Char.ofNat (0x10000 + (high - 0xD800) * 0x400 + (low - 0xDC00)), rest)
    else none
  else if 0xDC00 ≤ high ∧ high < 0xE000 then none
  else some (Char.ofNat high, rest)

def readEscape : List Char → Option (Char × List Char)
  | '"' :: rest => some ('"', rest)
  | '\\' :: rest => some ('\\', rest)
  | '/' :: rest => some ('/', rest)
  | 'b' :: rest => some ('\x08', rest)
  | 'f' :: rest => some ('\x0c', rest)
  | 'n' :: rest => some ('\n', rest)
  | 'r' :: rest => some ('\r', rest)
  | 't' :: rest => some ('\t', rest)
  | 'u' :: rest => readEscapedUnit rest
  | _ => none

def readText : Nat → List Char → Option (List Char × List Char)
  | 0, _ => none
  | _ + 1, [] => none
  | fuel + 1, c :: rest =>
      if c = '"' then some ([], rest)
      else if c = '\\' then do
        let (c, rest) ← readEscape rest
        let (cs, rest) ← readText fuel rest
        some (c :: cs, rest)
      else if c.toNat < 0x20 then none
      else do
        let (cs, rest) ← readText fuel rest
        some (c :: cs, rest)

/-- A significand below `Decimal.significandBound` and the count of digits left out of it. -/
structure Significand where
  value : Nat
  dropped : Nat

def Significand.push (s : Significand) (c : Char) : Significand :=
  let next := s.value * 10 + (c.toNat - 0x30)
  if s.dropped = 0 && next < Decimal.significandBound then ⟨next, 0⟩ else ⟨s.value, s.dropped + 1⟩

def readExponent (cs : List Char) : Option (Int × List Char) :=
  let (sign, cs) := match cs with
    | '+' :: rest => ((1 : Int), rest)
    | '-' :: rest => (-1, rest)
    | _ => (1, cs)
  let ds := cs.takeWhile isDigit
  if ds.isEmpty then none else some (sign * Decimal.value ds, cs.dropWhile isDigit)

def readFraction (s : Significand) (cs : List Char) : Option ((Nat × Int) × List Char) :=
  let ds := cs.takeWhile isDigit
  if ds.isEmpty then none
  else
    let all := ds.foldl Significand.push ⟨s.value, 0⟩
    some ((all.value, (s.dropped : Int) - (ds.length - all.dropped : Nat)), cs.dropWhile isDigit)

def readFloat (isNegative : Bool) (significand : Nat) (exponent : Int) (cs : List Char) :
    Option (Number × List Char) := do
  let (exponent, cs) ← match cs with
    | 'e' :: rest | 'E' :: rest => do
        let (e, rest) ← readExponent rest
        some (exponent + e, rest)
    | _ => some (exponent, cs)
  let x ← Decimal.scale? significand exponent
  some (.float (if isNegative then -x else x), cs)

def readNumber (isNegative : Bool) (cs : List Char) : Option (Number × List Char) := do
  let ds := cs.takeWhile isDigit
  let rest := cs.dropWhile isDigit
  if ds.isEmpty || (ds.length != 1 && ds.head? == some '0') then none
  else
    let s := ds.foldl Significand.push ⟨0, 0⟩
    match rest with
    | '.' :: rest =>
        let ((value, exponent), rest) ← readFraction s rest
        readFloat isNegative value exponent rest
    | 'e' :: _ | 'E' :: _ => readFloat isNegative s.value s.dropped rest
    | _ =>
        if s.dropped = 0 then
          let n : Int := if isNegative then -(s.value : Int) else s.value
          -- minus zero is no integer
          if (isNegative && s.value = 0) || n < -Word.half64 then
            some (.float (-(Float.ofNat s.value)), rest)
          else some (.int n, rest)
        else readFloat isNegative s.value s.dropped rest

mutual

def readValue : Nat → List Char → Option (Json × List Char)
  | 0, _ => none
  | fuel + 1, cs =>
      match skipSpace cs with
      | 'n' :: rest => (readExpected ['u', 'l', 'l'] rest).map (.null, ·)
      | 't' :: rest => (readExpected ['r', 'u', 'e'] rest).map (.bool true, ·)
      | 'f' :: rest => (readExpected ['a', 'l', 's', 'e'] rest).map (.bool false, ·)
      | '"' :: rest => (readText (rest.length + 1) rest).map fun (s, r) => (.string (.ofList s), r)
      | '[' :: rest =>
          match skipSpace rest with
          | ']' :: rest => some (.array [], rest)
          | rest => (readItems fuel rest).map fun (vs, r) => (.array vs, r)
      | '\x7b' :: rest =>
          match skipSpace rest with
          | '\x7d' :: rest => some (.object [], rest)
          | rest => (readEntries fuel [] rest).map fun (es, r) => (.object es, r)
      | '-' :: rest => (readNumber true rest).map fun (n, r) => (.number n, r)
      | cs => (readNumber false cs).map fun (n, r) => (.number n, r)

def readItems : Nat → List Char → Option (List Json × List Char)
  | 0, _ => none
  | fuel + 1, cs => do
      let (v, rest) ← readValue fuel cs
      match skipSpace rest with
      | ',' :: rest =>
          let (vs, rest) ← readItems fuel rest
          some (v :: vs, rest)
      | ']' :: rest => some ([v], rest)
      | _ => none

def readEntries : Nat → Object → List Char → Option (Object × List Char)
  | 0, _, _ => none
  | fuel + 1, soFar, cs =>
      match skipSpace cs with
      | '"' :: rest => do
          let (key, rest) ← readText (rest.length + 1) rest
          let (v, rest) ← readValue fuel (← readExpected [':'] (skipSpace rest))
          let soFar := soFar.insert (.ofList key) v
          match skipSpace rest with
          | ',' :: rest => readEntries fuel soFar rest
          | '\x7d' :: rest => some (soFar, rest)
          | _ => none
      | _ => none

end

def parse (text : String) : Option Json := do
  -- Reads a whole text. No value nests deeper than the text is long.
  let cs := text.toList
  let (v, rest) ← readValue (2 * cs.length + 2) cs
  if (skipSpace rest).isEmpty then some v else none

example : (parse "\x7b\"a\": [1, -0, 1.5e1]\x7d").map (· ==
    .object [("a", .array [.ofInt 1, .ofFloat (-0.0), .ofFloat 15.0])]) = some true := by
  decide +kernel

end MemoryBank.Json
