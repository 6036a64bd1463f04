import MemoryBank.Failure
import MemoryBank.Filter.Condition
import MemoryBank.Text.Split

set_option autoImplicit false

/-!
Dotted paths into documents. A path leads through documents only; setting one makes the documents
that are missing on the way.
-/

namespace MemoryBank

abbrev Path := List String

namespace Path

def ofText (text : String) : Path := (Text.splitAll '.' text.toList).map String.ofList

theorem ofText_ne_nil (text : String) : ofText text ≠ [] := by
  simp [ofText, Text.splitAll_ne_nil]

end Path

namespace Object

def getPath? : Object → Path → Option Json
  | _, [] => none
  | o, [field] => get? o field
  | o, field :: rest =>
      match get? o field with
      | some (.object inner) => getPath? inner rest
      | _ => none

def setPath (value : Json) : Object → Path → Result Object
  -- Fails where the path meets a value that is not a document.
  | o, [] => .ok o
  | o, [field] => .ok (insert o field value)
  | o, field :: rest =>
      match get? o field with
      | none => do return insert o field (.object (← setPath value [] rest))
      | some (.object inner) => do return insert o field (.object (← setPath value inner rest))
      | some _ => .error (.store (.pathThroughValue (rest.getLastD "") field))

def erasePath : Object → Path → Object
  | o, [] => o
  | o, [field] => erase o field
  | o, field :: rest =>
      match get? o field with
      | some (.object inner) => insert o field (.object (erasePath inner rest))
      | _ => o

end Object

end MemoryBank
