import MemoryBank.Filter.Condition
import MemoryBank.Json.Printer
import MemoryBank.Memory.Record

set_option autoImplicit false

/-!
Stored documents, commands, and the plainest filters.
-/

namespace MemoryBank

namespace Document

def ofJson : Json → Document
  -- The document of a value; what is none counts as empty.
  | .object d => d
  | _ => []

def idKey : String := "_id"

def id? (d : Document) : Option String :=
  -- The id as text: one that is not a text is shown as Json, and null is none.
  match d.get? idKey with
  | some (.string id) => some id
  | none | some .null => none
  | some v => some v.compact

def command (name collection : String) : Document := [(name, .string collection)]

def withId (id : String) : Document := [(idKey, .string id)]

def size (d : Document) : Nat := (Json.object d).compact.utf8ByteSize

end Document

def vectorPath : String := "embedding"

end MemoryBank
