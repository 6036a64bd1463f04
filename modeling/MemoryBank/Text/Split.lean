set_option autoImplicit false

/-!
Splitting texts, as lists of characters.
-/

namespace MemoryBank.Text

def splitAll (separator : Char) : List Char → List (List Char)
  | [] => [[]]
  | c :: rest =>
      match splitAll separator rest with
      | [] => [[c]]
      | part :: parts => if c = separator then [] :: part :: parts else (c :: part) :: parts

def splitFirst (separator : List Char) : List Char → Option (List Char × List Char)
  | [] => if separator.isEmpty then some ([], []) else none
  | c :: rest =>
      if separator.isPrefixOf (c :: rest) then some ([], (c :: rest).drop separator.length)
      else (splitFirst separator rest).map fun (before, after) => (c :: before, after)

theorem splitAll_ne_nil (separator : Char) (cs : List Char) : splitAll separator cs ≠ [] := by
  fun_induction splitAll separator cs <;> simp_all

example : splitFirst "://".toList "a://b://c".toList = some (['a'], "b://c".toList) := by decide
example : splitAll '.' "a..b".toList = [['a'], [], ['b']] := by decide

end MemoryBank.Text
