import MemoryBank.Settings.Config
import MemoryBank.Toml.Reader

set_option autoImplicit false

/-!
The configuration file. One that cannot be read, or whose values are not of their types, counts as
empty; keys that mean nothing are passed over.
-/

namespace MemoryBank

namespace Toml

mutual

/-- A value with its type told apart from the others, a date being none of the Json types. -/
def Value.toJson : Value → Json
  | .text s => .string s
  | .integer n => .ofInt n
  | .float => .ofFloat 0.0
  | .bool b => .bool b
  | .date => .object []
  | .array items => .array (Value.listToJson items)
  | .inline _ => .object []

def Value.listToJson : List Value → List Json
  | [] => []
  | v :: rest => v.toJson :: Value.listToJson rest

end

def Node.toJson : Node → Json
  | .value v => v.toJson
  | .table _ _ => .object []
  | .tables _ _ => .array []

end Toml

namespace Config

def fileName : String := "docmem.toml"

def ofToml? (document : String) : Option Config := do
  let entries ← Toml.parse document
  match decode (.object (entries.map fun e => (e.1, e.2.toJson))) with
  | .ok config => some config
  | .error _ => none

def ofFile (bytes : ByteArray) : Config :=
  ((String.fromUTF8? bytes).bind ofToml?).getD default

end Config

end MemoryBank
