set_option autoImplicit false

/-!
The words of a TOML document: keys, texts, numbers and dates. Each reader takes what is left of the
document and returns what it read with the rest.
-/

namespace MemoryBank.Toml

def isDigit (c : Char) : Bool := '0' ≤ c && c ≤ '9'

def isBlank (c : Char) : Bool := c = ' ' || c = '\t'

def isPlain (c : Char) : Bool := c = '\t' || (0x20 ≤ c.toNat && c.toNat ≠ 0x7F)

def skipBlanks (cs : List Char) : List Char := cs.dropWhile isBlank

def readNewline : List Char → Option (List Char)
  | '\n' :: rest => some rest
  | '\r' :: '\n' :: rest => some rest
  | _ => none

def skipComment (cs : List Char) : List Char :=
  match skipBlanks cs with
  | '#' :: rest => rest.dropWhile isPlain
  | rest => rest

def skipLines : Nat → List Char → List Char
  | 0, cs => cs
  | fuel + 1, cs =>
      let rest := skipComment cs
      match readNewline rest with
      | some rest => skipLines fuel rest
      | none => rest

def hexValue (c : Char) : Option Nat :=
  if isDigit c then some (c.toNat - 0x30)
  else if 'a' ≤ c ∧ c ≤ 'f' then some (c.toNat - 0x57)
  else if 'A' ≤ c ∧ c ≤ 'F' then some (c.toNat - 0x37)
  else none

def readHex : Nat → Nat → List Char → Option (Nat × List Char)
  | 0, n, cs => some (n, cs)
  | _ + 1, _, [] => none
  | k + 1, n, c :: cs => do readHex k (n * 16 + (← hexValue c)) cs

def readCode (places : Nat) (cs : List Char) : Option (Char × List Char) := do
  -- A character given by its code, which may not be a surrogate.
  let (n, rest) ← readHex places 0 cs
  if n < 0xD800 ∨ (0xE000 ≤ n ∧ n < 0x110000) then some (Char.ofNat n, rest) else none

def readEscape : List Char → Option (Char × List Char)
  | 'b' :: rest => some ('\x08', rest)
  | 't' :: rest => some ('\t', rest)
  | 'n' :: rest => some ('\n', rest)
  | 'f' :: rest => some ('\x0c', rest)
  | 'r' :: rest => some ('\r', rest)
  | '"' :: rest => some ('"', rest)
  | '\\' :: rest => some ('\\', rest)
  | 'u' :: rest => readCode 4 rest
  | 'U' :: rest => readCode 8 rest
  | _ => none

def readBasic : Nat → List Char → Option (List Char × List Char)
  | 0, _ => none
  | _ + 1, [] => none
  | fuel + 1, c :: rest =>
      if c = '"' then some ([], rest)
      else if c = '\\' then do
        let (c, rest) ← readEscape rest
        let (cs, rest) ← readBasic fuel rest
        return (c :: cs, rest)
      else if isPlain c then do
        let (cs, rest) ← readBasic fuel rest
        return (c :: cs, rest)
      else none

def readLiteral (cs : List Char) : Option (List Char × List Char) :=
  let inside (c : Char) : Bool := isPlain c && c != '\''
  match cs.dropWhile inside with
  | '\'' :: rest => some (cs.takeWhile inside, rest)
  | _ => none

def closing (quote : Char) : List Char → Option (List Char × List Char)
  -- Three quotes close a text of several lines; one or two more before them belong to it.
  | a :: b :: c :: d :: e :: rest =>
      if a = quote ∧ b = quote ∧ c = quote then
        if d = quote ∧ e = quote then some ([quote, quote], rest)
        else if d = quote then some ([quote], e :: rest)
        else some ([], d :: e :: rest)
      else none
  | [a, b, c, d] =>
      if a = quote ∧ b = quote ∧ c = quote then
        if d = quote then some ([quote], []) else some ([], [d])
      else none
  | [a, b, c] => if a = quote ∧ b = quote ∧ c = quote then some ([], []) else none
  | _ => none

/-- A backslash at the end of a line joins it with the next text, over blanks and line ends. -/
def skipJoin (cs : List Char) : Option (List Char) :=
  match readNewline (skipBlanks cs) with
  | some rest => some (skip (rest.length + 1) rest)
  | none => none
where
  skip : Nat → List Char → List Char
    | 0, cs => cs
    | fuel + 1, cs =>
        match readNewline (skipBlanks cs) with
        | some rest => skip fuel rest
        | none => skipBlanks cs

def readLines (quote : Char) (escapes : Bool) : Nat → List Char → Option (List Char × List Char)
  | 0, _ => none
  | fuel + 1, cs =>
      match closing quote cs with
      | some (extra, rest) => some (extra, rest)
      | none =>
        match readNewline cs with
        | some rest => do
            let (text, rest) ← readLines quote escapes fuel rest
            return ('\n' :: text, rest)
        | none =>
          match cs with
          | [] => none
          | c :: rest =>
              if c = '\\' && escapes then
                match skipJoin rest with
                | some rest => readLines quote escapes fuel rest
                | none => do
                    let (c, rest) ← readEscape rest
                    let (text, rest) ← readLines quote escapes fuel rest
                    return (c :: text, rest)
              else if isPlain c then do
                let (text, rest) ← readLines quote escapes fuel rest
                return (c :: text, rest)
              else none

def readMultiline (quote : Char) (escapes : Bool) (cs : List Char) :
    Option (List Char × List Char) :=
  -- A line end right after the opening quotes is left out.
  readLines quote escapes (cs.length + 1) ((readNewline cs).getD cs)

def isBare (c : Char) : Bool := c.isAlphanum || c = '_' || c = '-'

def readSimpleKey : List Char → Option (String × List Char)
  | '"' :: rest => do
      let (cs, rest) ← readBasic (rest.length + 1) rest
      return (.ofList cs, rest)
  | '\'' :: rest => do
      let (cs, rest) ← readLiteral rest
      return (.ofList cs, rest)
  | cs =>
      let key := cs.takeWhile isBare
      if key.isEmpty then none else some (.ofList key, cs.dropWhile isBare)

def readParts : Nat → List Char → Option (List String × List Char)
  | 0, _ => none
  | fuel + 1, cs => do
      let (part, rest) ← readSimpleKey (skipBlanks cs)
      match skipBlanks rest with
      | '.' :: rest => do
          let (parts, rest) ← readParts fuel rest
          return (part :: parts, rest)
      | rest => return ([part], rest)

/-- A key has fewer parts than this, and a value lies in fewer arrays and inline tables. -/
def nestingLimit : Nat := 80

def readKey (cs : List Char) : Option (List String × List Char) := do
  let (parts, rest) ← readParts (cs.length + 1) cs
  if parts.length < nestingLimit then some (parts, rest) else none

def readDigits (isDigit : Char → Bool) : List Char → Option (List Char × List Char)
  | [] => none
  | c :: rest => if isDigit c then some (goOn c rest) else none
where
  goOn (c : Char) : List Char → List Char × List Char
    | [] => ([c], [])
    | '_' :: d :: rest =>
        if isDigit d then
          let (ds, r) := goOn d rest
          (c :: ds, r)
        else ([c], '_' :: d :: rest)
    | d :: rest =>
        if isDigit d then
          let (ds, r) := goOn d rest
          (c :: ds, r)
        else ([c], d :: rest)

def number (base : Nat) (ds : List Char) : Nat :=
  ds.foldl (fun n c => base * n + (hexValue c).getD 0) 0

def readFixed (places least most : Nat) (cs : List Char) : Option (Nat × List Char) :=
  let ds := cs.take places
  let n := number 10 ds
  if ds.length = places ∧ ds.all isDigit ∧ least ≤ n ∧ n ≤ most then some (n, cs.drop places)
  else none

def daysIn (year month : Nat) : Nat :=
  if month = 2 then
    if year % 4 = 0 ∧ (year % 100 ≠ 0 ∨ year % 400 = 0) then 29 else 28
  else if month = 4 ∨ month = 6 ∨ month = 9 ∨ month = 11 then 30
  else 31

def readMark (c : Char) : List Char → Option (List Char)
  | d :: rest => if c = d then some rest else none
  | [] => none

def readDate (cs : List Char) : Option (List Char) := do
  let (year, rest) ← readFixed 4 0 9999 cs
  let (month, rest) ← readFixed 2 1 12 (← readMark '-' rest)
  let (_, rest) ← readFixed 2 1 (daysIn year month) (← readMark '-' rest)
  return rest

def readTime (cs : List Char) : Option (List Char) := do
  let (_, rest) ← readFixed 2 0 23 cs
  let (_, rest) ← readFixed 2 0 59 (← readMark ':' rest)
  let (_, rest) ← readFixed 2 0 60 (← readMark ':' rest)
  match rest with
  | '.' :: c :: more => if isDigit c then some (more.dropWhile isDigit) else some rest
  | _ => some rest

def readOffset : List Char → Option (List Char)
  | 'Z' :: rest | 'z' :: rest => some rest
  | '+' :: rest | '-' :: rest => do
      let (_, rest) ← readFixed 2 0 23 rest
      let (_, rest) ← readFixed 2 0 59 (← readMark ':' rest)
      return rest
  | _ => none

def readDateTime (cs : List Char) : Option (List Char) :=
  match readDate cs with
  | some rest =>
      let time := match rest with
        | 'T' :: more | 't' :: more | ' ' :: more => readTime more
        | _ => none
      match time with
      | some more => some ((readOffset more).getD more)
      | none => some rest
  | none => readTime cs

end MemoryBank.Toml
