import MemoryBank.Text.Emoji
import MemoryBank.Text.Ligature

set_option autoImplicit false

/-!
The number of columns a line of text takes in a fixed-width table. A line is measured from its end:
how many columns a character adds depends on what comes after it.
-/

namespace MemoryBank.Text

/-- What a selector asks of the character before it: a sign, a picture, or a wide quotation mark. -/
inductive Style
  | sign
  | picture
  | wide
  deriving DecidableEq

def Style.ofSelector? (c : Char) : Option Style :=
  if c.toNat = 0xFE0E then some .sign
  else if c.toNat = 0xFE0F then some .picture
  else if c.toNat = 0xFE01 then some .wide
  else none

inductive Start
  | other
  | letter (l : Ligature)
  | emoji (e : EmojiEnd)
  deriving DecidableEq

namespace Start

def ofChar (c : Char) : Start :=
  match Ligature.ofLast? c with
  | some l => .letter l
  | none => match EmojiEnd.ofLast? c with
    | some e => .emoji e
    | none => .other

def extend (s : Start) (c : Char) : Int × Start :=
  let alone : Int × Start := (charWidth c, ofChar c)
  match s with
  | .letter l => ((l.extend? c).map fun (n, l) => (n, l.elim .other .letter)).getD alone
  | .emoji e => ((e.extend? c).map fun (n, e) => (n, .emoji e)).getD alone
  | .other => alone

def isTied : Start → Bool
  -- A picture behind the start takes its columns already.
  | .emoji e => e.isTied
  | _ => false

def keeps (s : Start) (style : Style) : Bool :=
  match s with
  | .letter l => l.takesSelector
  | .emoji e => e.isTied && style == .picture
  | .other => false

end Start

/-- The rest of a line: what it begins with, and what a selector in front of that asks for. -/
structure Rest where
  start : Start
  style : Option Style
  deriving DecidableEq

namespace Rest

def unstyled (r : Rest) : Start :=
  match r.style, r.start with
  | some _, .emoji _ => .other
  | _, start => start

def select (r : Rest) (style : Style) : Rest :=
  ⟨if r.unstyled.keeps style then r.unstyled else .other, some style⟩

end Rest

def narrows (c : Char) : Bool :=
  -- Wide pictures that become narrow signs: all but the enclosed ideographs.
  inRanges styledRanges c && inRanges pictureRanges c && !inRanges [(0x1F200, 0x1F2FF)] c

def isQuotationMark (c : Char) : Bool := inRanges [(0x2018, 0x2019), (0x201C, 0x201D)] c

def measure (c : Char) (r : Rest) : Int × Rest :=
  if r.style = some .picture ∧ inRanges styledRanges c then
    (if r.start.isTied then 0 else 2, ⟨.emoji .picture, none⟩)
  else if c.toNat ≤ 0xA0 then (1, ⟨.other, none⟩)
  else match Style.ofSelector? c with
    | some style => (0, r.select style)
    | none =>
      if r.style = some .sign ∧ narrows c then (1, ⟨.other, none⟩)
      else if r.style = some .wide ∧ isQuotationMark c then (2, ⟨.other, none⟩)
      else
        let (n, start) := r.unstyled.extend c
        (n, ⟨start, none⟩)

def measureAll : List Char → Int × Rest
  | [] => (0, ⟨.other, none⟩)
  | c :: cs =>
      let (n, r) := measureAll cs
      let (m, r) := measure c r
      (m + n, r)

def width (line : String) : Nat := (measureAll line.toList).1.toNat

example : width "table" = 5 := by decide

example : width "1\uFE0F\u20E3" = 2 := by decide +kernel

end MemoryBank.Text
