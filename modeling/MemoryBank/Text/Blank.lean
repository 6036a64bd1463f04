set_option autoImplicit false

/-!
White space and the trimming of texts. `trim` drops white space from both ends and nothing else.
-/

namespace MemoryBank.Text

def blankRanges : List (Nat × Nat) :=
  [(0x09, 0x0D), (0x20, 0x20), (0x85, 0x85), (0xA0, 0xA0), (0x1680, 0x1680), (0x2000, 0x200A),
   (0x2028, 0x2029), (0x202F, 0x202F), (0x205F, 0x205F), (0x3000, 0x3000)]

def inRanges (ranges : List (Nat × Nat)) (c : Char) : Bool :=
  ranges.any fun r => r.1 ≤ c.toNat && c.toNat ≤ r.2

def blank (c : Char) : Bool := inRanges blankRanges c

example : " \t\r\n".toList.all blank := by decide

def isBlank (s : String) : Bool := s.toList.all blank

def trimList (cs : List Char) : List Char :=
  ((cs.dropWhile blank).reverse.dropWhile blank).reverse

def trim (s : String) : String := String.ofList (trimList s.toList)

end MemoryBank.Text
