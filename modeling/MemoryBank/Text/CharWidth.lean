import MemoryBank.Text.Blank
import MemoryBank.Text.MarkTable

set_option autoImplicit false

/-!
The number of columns of a character that stands alone.
-/

namespace MemoryBank.Text

def unspaced (c : Char) : Bool :=
  inRanges extenderRanges c || inRanges invisibleRanges c || inRanges attachedRanges c ||
    inRanges hangulRanges c

/-- Two letters take two columns although they are not in the table of wide characters, one takes
three, and the consonant joiner of Tifinagh has a visible form when it joins nothing. -/
def charWidth (c : Char) : Nat :=
  if c.toNat ≤ 0xA0 then 1
  else if c.toNat = 0x2D7F then 1
  else if c.toNat = 0x115F ∨ c.toNat = 0x17A4 then 2
  else if c.toNat = 0x17D8 then 3
  else if unspaced c then 0
  else if inRanges wideRanges c then 2
  else 1

def joinsAcross (c : Char) : Bool := charWidth c == 0 && !inRanges joinBreakRanges c

end MemoryBank.Text
