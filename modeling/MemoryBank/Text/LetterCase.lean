import MemoryBank.Text.Blank
import MemoryBank.Text.LetterTable

set_option autoImplicit false

/-!
Lower case. A letter is lowered on its own, except the Greek capital sigma, which becomes the final
form at the end of a word.
-/

namespace MemoryBank.Text

def CaseRun.covers (run : CaseRun) (code : Nat) : Bool :=
  run.first ≤ code && code ≤ run.last && (code - run.first) % run.step == 0

def lowerChar (c : Char) : List Char :=
  -- The dotted capital I has no single lower-case letter: it becomes an i and a dot above.
  if c.toNat < 0x80 then [c.toLower]
  else if c.toNat = 0x130 then ['i', '\u0307']
  else match caseRuns.find? (·.covers c.toNat) with
    | some run => [Char.ofNat ((c.toNat : Int) + run.shift).toNat]
    | none => [c]

def cased (c : Char) : Bool := inRanges casedRanges c

def caseIgnorable (c : Char) : Bool := inRanges caseIgnorableRanges c

def wordGoesOn (rest : List Char) : Bool :=
  match rest.dropWhile caseIgnorable with
  | [] => false
  | c :: _ => cased c

/-- `inWord` tells whether a cased letter stands before, ignorable characters apart. -/
def lowerFrom : Bool → List Char → List Char
  | _, [] => []
  | inWord, c :: rest =>
      let lowered :=
        if c = 'Σ' then (if inWord && !wordGoesOn rest then ['ς'] else ['σ']) else lowerChar c
      lowered ++ lowerFrom (if caseIgnorable c then inWord else cased c) rest

def lower (s : String) : String := String.ofList (lowerFrom false s.toList)

end MemoryBank.Text
