import MemoryBank.Memory.Item
import MemoryBank.Memory.Request

set_option autoImplicit false

/-!
What a memory engine offers to the service. `n` is what its operations do besides failing.
-/

namespace MemoryBank

structure Engine (n : Type → Type) where
  -- Stores a memory, or nothing; the metadata carry the category and the expiry.
  add : MemoryInput → Scope → Object → ExceptT Failure n (Option AddOutcome)
  search : String → Scope → Nat → Filters → ExceptT Failure n (List MemoryItem)
  get : String → ExceptT Failure n MemoryItem
  getAll : Scope → Nat → ExceptT Failure n (List MemoryItem)
  -- Replaces the content of a memory.
  update : String → String → ExceptT Failure n Unit
  delete : String → ExceptT Failure n Unit
  history : String → ExceptT Failure n (List HistoryEntry)

structure Embedder where
  embed : List String → Result (List Embedding)

def Embedder.embedOne (e : Embedder) (text : String) : Result Embedding := do
  match ← e.embed [text] with
  | vector :: _ => return vector
  | [] => throw (.store .noEmbedding)

namespace Embedder

def letterCounts (places : Nat) (text : String) : Embedding :=
  let letters := text.toList.filter fun c => c.isAlpha
  (List.range places).map fun i =>
    .ofInt (letters.countP fun c => (c.toLower.toNat - 0x61) % places == i)

def ofLetters (places : Nat) : Embedder := ⟨fun texts => .ok (texts.map (letterCounts places))⟩

def silent : Embedder := ⟨fun _ => .ok []⟩

def offline : Embedder := ⟨fun _ => .error (.store (.reported "embedder offline"))⟩

end Embedder

end MemoryBank
