import MemoryBank.Decode.Mismatch
import MemoryBank.Json.Object

set_option autoImplicit false

/-!
Reading typed values out of Json. The first fault met, in the order the value is written, is the
one reported.
-/

namespace MemoryBank

abbrev Decoder (α : Type) := Json → Except Mismatch α

namespace Decode

def mismatch {α : Type} (expected : String) (v : Json) : Except Mismatch α :=
  .error (.wrongType (.ofJson v) expected)

def text : Decoder String
  | .string s => .ok s
  | v => mismatch "a string" v

def integer (expected : String) (low high : Int) : Decoder Int
  | .number (.int n) =>
      if low ≤ n ∧ n < high then .ok n else .error (.wrongValue (.integer n) expected)
  | v => mismatch expected v

def int64 : Decoder Int := integer "i64" (-Word.half64) Word.half64

def word64 (v : Json) : Except Mismatch Nat := Int.toNat <$> integer "u64" 0 Word.bound64 v

def size (v : Json) : Except Mismatch Nat := Int.toNat <$> integer "usize" 0 Word.bound64 v

def word32 (v : Json) : Except Mismatch Nat := Int.toNat <$> integer "u32" 0 Word.bound32 v

def single : Decoder Single
  | .number (.int n) => .ok (.ofInt n)
  | .number (.float x) => .ok (.ofFloat x)
  | v => mismatch "f32" v

def any : Decoder Json := .ok

def optional {α : Type} (decode : Decoder α) : Decoder (Option α)
  | .null => .ok none
  | v => some <$> decode v

def list {α : Type} (decode : Decoder α) : Decoder (List α)
  | .array items => items.mapM decode
  | v => mismatch "a sequence" v

def map : Decoder Object
  | .object entries => .ok entries
  | v => mismatch "a map" v

def unit : Decoder Unit
  | .null => .ok ()
  | v => mismatch "unit" v

def named {α : Type} (options : List (String × α)) (name : String) : Except Mismatch α :=
  match options.find? (·.1 == name) with
  | some option => .ok option.2
  | none => .error (.unknownVariant name (options.map (·.1)))

/-- One of several names, alone or as the only key of an object that holds null. -/
def variant {α : Type} (options : List (String × α)) : Decoder α
  | .string name => named options name
  | .object [(name, content)] => do
      let a ← named options name
      unit content
      return a
  | .object _ => .error (.wrongValue .map "map with a single key")
  | v => mismatch "string or map" v

end Decode

end MemoryBank
