import MemoryBank.Text.Blank
import MemoryBank.Text.EmojiTable
import MemoryBank.Text.MarkTable

set_option autoImplicit false

/-!
Emoji made of several characters: pictures tied by joiners, skin tones, flags of two letters, and
flags of regions spelled in tags. A text is measured from its end, so an emoji is known by its last
part first.
-/

namespace MemoryBank.Text

inductive EmojiEnd
  -- A picture.
  | picture
  -- A skin tone.
  | skinTone
  -- One flag letter.
  | flagLetter
  -- A run of flag letters.
  | flagLetters
  -- A joiner before a picture.
  | joined
  -- A keycap mark before a joiner and a picture.
  | joinedKeycap
  -- One flag letter before a joiner and a picture.
  | joinedLetter
  -- Whole flags before a joiner and a picture.
  | joinedFlags
  -- Whole flags and a flag letter before a joiner and a picture.
  | joinedOddLetters
  -- The closing tag after so many letter tags.
  | letterTags (count : Nat)
  -- So many digit tags before other tags.
  | digitTags (count : Nat)
  deriving DecidableEq

def isFlagLetter (c : Char) : Bool := inRanges [(0x1F1E6, 0x1F1FF)] c

def isSkinTone (c : Char) : Bool := inRanges [(0x1F3FB, 0x1F3FF)] c

namespace EmojiEnd

def ofLast? (c : Char) : Option EmojiEnd :=
  if isFlagLetter c then some .flagLetter
  else if isSkinTone c then some .skinTone
  else if inRanges pictureRanges c then some .picture
  else none

def isTied : EmojiEnd → Bool
  -- The picture behind the joiner takes its columns already, so what is tied to it takes none.
  | .joined | .joinedKeycap => true
  | _ => false

def tie (code : Nat) : Option (Int × EmojiEnd) :=
  if code = joiner then some (0, .joined) else none

def closeTags (complete : Bool) (code : Nat) : Option (Int × EmojiEnd) :=
  -- A black flag in front of the tags of a region makes them a picture.
  if complete && code == 0x1F3F4 then some (0, .picture) else none

/-- The columns that a character adds as the part before, and the emoji then reached. Two flag
letters take two columns, and none if a joiner ties them to a picture. -/
def extend? (e : EmojiEnd) (c : Char) : Option (Int × EmojiEnd) :=
  let code := c.toNat
  match e with
  | .picture => tie code
  | .skinTone => if inRanges personRanges c then some (0, .picture) else tie code
  | .flagLetter => if isFlagLetter c then some (1, .flagLetters) else none
  | .flagLetters => if isFlagLetter c then some (1, .flagLetters) else tie code
  | .joined =>
      if code = 0x20E3 then some (0, .joinedKeycap)
      else if code = 0xE007F then some (0, .letterTags 0)
      else match ofLast? c with
        | some .flagLetter => some (1, .joinedLetter)
        | some e => some (0, e)
        | none => none
  | .joinedKeycap => none
  | .joinedLetter | .joinedOddLetters => if isFlagLetter c then some (-1, .joinedFlags) else none
  | .joinedFlags => if isFlagLetter c then some (3, .joinedOddLetters) else tie code
  | .letterTags n =>
      if n < 6 ∧ 0xE0061 ≤ code ∧ code ≤ 0xE007A then some (0, .letterTags (n + 1))
      else if n < 5 ∧ 0xE0030 ≤ code ∧ code ≤ 0xE0039 then some (0, .digitTags 1)
      else closeTags (3 ≤ n) code
  | .digitTags n =>
      if n < 3 ∧ 0xE0030 ≤ code ∧ code ≤ 0xE0039 then some (0, .digitTags (n + 1))
      else closeTags (n == 3) code

end EmojiEnd

end MemoryBank.Text
