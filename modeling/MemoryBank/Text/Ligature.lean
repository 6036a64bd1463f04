import MemoryBank.Text.CharWidth

set_option autoImplicit false

/-!
Letters that are drawn in one with what stands before them. A text is measured from its end, so a
ligature is known by its last letter first.
-/

namespace MemoryBank.Text

/-- The end of a ligature. `joined` tells that a joiner stands before the letter. -/
inductive Ligature
  -- Arabic: an alef, for a lam before it.
  | alef
  -- Hebrew: a lamed, for an alef before it.
  | lamed (joined : Bool)
  -- Buginese: a ya, for the vowels i and a before it.
  | ya (joined : Bool)
  -- Buginese: the vowel i before a ya.
  | yaAfterI
  -- Tifinagh: a consonant, for another one before it.
  | consonant (joined : Bool)
  -- Tifinagh: a consonant joiner before a consonant.
  | joinedConsonant
  -- Lisu: the second part of a tone.
  | tone
  -- Old Turkic: the letter i, for an ich before it.
  | oldTurkicI (joined : Bool)
  -- Khmer: a letter, for the sign that puts it below the line.
  | subscribable
  -- Kirat Rai: the vowel e, for the parts of longer vowels before it.
  | vowelE
  -- Kirat Rai: the vowel ai.
  | vowelAi
  deriving DecidableEq

namespace Ligature

def isAlef (c : Char) : Bool :=
  inRanges [(0x622, 0x623), (0x625, 0x625), (0x627, 0x627), (0x671, 0x673), (0x675, 0x675),
    (0x773, 0x774), (0x870, 0x882)] c

def isLam (c : Char) : Bool :=
  inRanges [(0x644, 0x644), (0x6B5, 0x6B8), (0x76A, 0x76A), (0x8A6, 0x8A6), (0x8C7, 0x8C7)] c

def isTifinagh (c : Char) : Bool := inRanges [(0x2D31, 0x2D65), (0x2D6F, 0x2D6F)] c

def isSubscribable (c : Char) : Bool :=
  inRanges [(0x1780, 0x1782), (0x1784, 0x1787), (0x1789, 0x178C), (0x178E, 0x1793),
    (0x1795, 0x1798), (0x179B, 0x179D), (0x17A0, 0x17A0), (0x17A2, 0x17A2), (0x17A7, 0x17A7),
    (0x17AB, 0x17AC), (0x17AF, 0x17AF)] c

def ofLast? (c : Char) : Option Ligature :=
  if isAlef c then some .alef
  else if c.toNat = 0x5DC then some (.lamed false)
  else if c.toNat = 0x1A10 then some (.ya false)
  else if isTifinagh c then some (.consonant false)
  else if c.toNat = 0xA4FC ∨ c.toNat = 0xA4FD then some .tone
  else if c.toNat = 0x10C03 then some (.oldTurkicI false)
  else if isSubscribable c then some .subscribable
  else if c.toNat = 0x16D67 then some .vowelE
  else if c.toNat = 0x16D68 then some .vowelAi
  else none

def takesSelector : Ligature → Bool
  -- A style selector may stand before the letter.
  | .vowelE | .vowelAi => false
  | _ => true

def takesMarks : Ligature → Bool
  -- Joiners and invisible marks may stand before the letter.
  | .alef | .vowelE | .vowelAi => false
  | _ => true

def join : Ligature → Ligature
  | .lamed _ => .lamed true
  | .ya _ => .ya true
  | .consonant _ => .consonant true
  | .oldTurkicI _ => .oldTurkicI true
  | l => l

/-- The columns that a character adds as the part before, and the ligature it leaves unfinished. -/
def extend? (l : Ligature) (c : Char) : Option (Int × Option Ligature) :=
  let code := c.toNat
  if l.takesMarks && code == joiner then some (0, some l.join)
  else if l.takesMarks && inRanges invisibleMarkRanges c then some (0, some l)
  else match l with
    | .alef =>
        if isLam c then some (0, none) else if joinsAcross c then some (0, some .alef) else none
    | .lamed joined => if joined && code == 0x5D0 then some (0, none) else none
    | .ya joined => if joined && code == 0x1A17 then some (0, some .yaAfterI) else none
    | .yaAfterI => if code = 0x1A15 then some (0, none) else none
    | .consonant joined =>
        if code = 0x2D7F then some (1, some .joinedConsonant)
        else if joined && isTifinagh c then some (0, none)
        else none
    | .joinedConsonant => if isTifinagh c then some (-1, none) else none
    | .tone => if 0xA4F8 ≤ code ∧ code ≤ 0xA4FB then some (0, none) else none
    | .oldTurkicI joined => if joined && code == 0x10C32 then some (0, none) else none
    | .subscribable => if code = 0x17D2 then some (-1, none) else none
    | .vowelE =>
        if code = 0x16D63 ∨ code = 0x16D69 then some (0, none)
        else if code = 0x16D67 then some (0, some .vowelAi)
        else if code = 0x16D68 then some (1, some .vowelE)
        else none
    | .vowelAi => if code = 0x16D63 then some (0, none) else none

end Ligature

end MemoryBank.Text
