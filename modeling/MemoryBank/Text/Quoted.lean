import MemoryBank.Text.Blank
import MemoryBank.Text.MarkTable

set_option autoImplicit false

/-!
Texts quoted inside messages: between double quotes, with what cannot be seen written as its code.
-/

namespace MemoryBank.Text

def hexDigits (n : Nat) : List Char := Nat.toDigits 16 n

def unprintable (c : Char) : Bool :=
  if c.toNat < 0x7F then c.toNat < 0x20
  else inRanges unprintableRanges c || inRanges extenderRanges c || inRanges invisibleRanges c

def quoteChar (c : Char) : List Char :=
  if c = '"' then ['\\', '"']
  else if c = '\\' then ['\\', '\\']
  else if c = '\n' then ['\\', 'n']
  else if c = '\r' then ['\\', 'r']
  else if c = '\t' then ['\\', 't']
  else if c.toNat = 0 then ['\\', '0']
  else if unprintable c then '\\' :: 'u' :: '\x7b' :: (hexDigits c.toNat ++ ['\x7d'])
  else [c]

def quoted (s : String) : String :=
  String.ofList ('"' :: (s.toList.flatMap quoteChar ++ ['"']))

end MemoryBank.Text
