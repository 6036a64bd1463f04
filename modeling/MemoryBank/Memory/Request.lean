import MemoryBank.Memory.Payload

set_option autoImplicit false

/-!
What is asked of a memory service.
-/

namespace MemoryBank

structure ChatMessage where
  role : String
  content : String
  deriving DecidableEq, Inhabited

inductive MemoryInput
  | text (text : String)
  | messages (messages : List ChatMessage)
  deriving DecidableEq, Inhabited

structure AddRequest where
  scope : Scope
  messages : MemoryInput
  category : Category
  metadata : Option Object
  -- Seconds to live: none for the configured default, 0 for ever.
  lifetime : Option Int
  deriving Inhabited

structure SearchRequest where
  scope : Scope
  query : String
  categories : Option (List Category)
  limit : Nat
  deriving Inhabited

namespace ChatMessage

def toJson (m : ChatMessage) : Json :=
  .object [("role", .string m.role), ("content", .string m.content)]

def fields : List Field := [.required "role" Decode.text, .required "content" Decode.text]

def decode (v : Json) : Except Mismatch ChatMessage := do
  let known ← Fields.read "ChatMessage" fields v
  return {
    role := ← Fields.get known "role" Decode.text
    content := ← Fields.get known "content" Decode.text }

end ChatMessage

namespace MemoryInput

/-- The text that is embedded and stored: the contents of the messages, a line for each. -/
def toText : MemoryInput → String
  | text t => t
  | messages ms => String.intercalate "\n" (ms.map (·.content))

def isBlank (input : MemoryInput) : Bool := Text.isBlank input.toText

def toJson : MemoryInput → Json
  | text t => .string t
  | messages ms => .array (ms.map (·.toJson))

def decode : Decoder MemoryInput
  | .string t => .ok (.text t)
  | v => match Decode.list ChatMessage.decode v with
    | .ok ms => .ok (.messages ms)
    | .error _ => .error (.noVariant "MemoryInput")

end MemoryInput

namespace AddRequest

def validate (r : AddRequest) : Result Unit := do
  r.scope.validate
  if r.messages.isBlank then throw (.validation .blankMessages)
  if r.lifetime.any (· < 0) then throw (.validation .negativeLifetime)

def toJson (r : AddRequest) : Json :=
  .object <| r.scope.entries ++
    [("messages", r.messages.toJson), ("category", r.category.toJson),
      ("metadata", Json.ofOption .object r.metadata),
      ("ttl_seconds", Json.ofOption .ofInt r.lifetime)]

def fields : List Field :=
  [.required "messages" MemoryInput.decode, .required "category" Category.decode,
    .optional "metadata" Decode.map, .optional "ttl_seconds" Decode.int64]

def decode : Decoder AddRequest
  | .object o => do
      let (known, others) ← Fields.ofObject fields o
      let (scope, _) ← Scope.among others
      return {
        scope := scope
        messages := ← Fields.get known "messages" MemoryInput.decode
        category := ← Fields.get known "category" Category.decode
        metadata := ← Fields.get? known "metadata" Decode.map
        lifetime := ← Fields.get? known "ttl_seconds" Decode.int64 }
  | v => Decode.mismatch "struct AddMemoryRequest" v

end AddRequest

namespace SearchRequest

def defaultLimit : Nat := 100

def validate (r : SearchRequest) : Result Unit := do
  r.scope.validate
  if r.limit = 0 then throw (.validation .zeroLimit)

def toJson (r : SearchRequest) : Json :=
  .object <| r.scope.entries ++
    [("query", .string r.query),
      ("categories", Json.ofOption (fun cs => .array (cs.map (·.toJson))) r.categories),
      ("limit", .ofNat r.limit)]

def fields : List Field :=
  [.required "query" Decode.text, .optional "categories" (Decode.list Category.decode),
    .defaulted "limit" Decode.size]

def decode : Decoder SearchRequest
  | .object o => do
      let (known, others) ← Fields.ofObject fields o
      let (scope, _) ← Scope.among others
      return {
        scope := scope
        query := ← Fields.get known "query" Decode.text
        categories := ← Fields.get? known "categories" (Decode.list Category.decode)
        limit := ← Fields.getD known "limit" Decode.size defaultLimit }
  | v => Decode.mismatch "struct SearchMemoryRequest" v

end SearchRequest

end MemoryBank
