import MemoryBank.Decode.Basic

set_option autoImplicit false

/-!
Records with named fields. `sortOut` parts the entries of an object into the known fields, under
their own names, and the rest; a record may also be written as a sequence, its fields in order.
-/

namespace MemoryBank

inductive Absence
  | refused
  | null
  -- As null, and also at the end of a sequence.
  | filled
  deriving DecidableEq

structure Field where
  name : String
  alternative : Option String
  check : Decoder Unit
  absence : Absence

namespace Field

def required {α : Type} (name : String) (decode : Decoder α) : Field :=
  ⟨name, none, fun v => (fun _ => ()) <$> decode v, .refused⟩

def nullable {α : Type} (name : String) (decode : Decoder α) : Field :=
  ⟨name, none, fun v => (fun _ => ()) <$> Decode.optional decode v, .null⟩

def optional {α : Type} (name : String) (decode : Decoder α) : Field :=
  ⟨name, none, fun v => (fun _ => ()) <$> Decode.optional decode v, .filled⟩

def defaulted {α : Type} (name : String) (decode : Decoder α) : Field :=
  -- Takes a given value where it is missing, but null is no such value.
  ⟨name, none, fun v => (fun _ => ()) <$> decode v, .filled⟩

def orNamed (f : Field) (alternative : String) : Field := { f with alternative := some alternative }

def answersTo (f : Field) (key : String) : Bool := key == f.name || f.alternative == some key

end Field

namespace Fields

def sortOut (fields : List Field) : List String → Object → Except Mismatch (Object × Object)
  | _, [] => .ok ([], [])
  | seen, (key, v) :: rest =>
      match fields.find? (·.answersTo key) with
      | none => do
          let (known, others) ← sortOut fields seen rest
          return (known, (key, v) :: others)
      | some f =>
          if seen.contains f.name then .error (.duplicateField f.name)
          else do
            f.check v
            let (known, others) ← sortOut fields (f.name :: seen) rest
            return ((f.name, v) :: known, others)

def requireAll (fields : List Field) (known : Object) : Except Mismatch Unit :=
  fields.forM fun f =>
    if f.absence = .refused ∧ ¬ known.contains f.name then .error (.missingField f.name)
    else .ok ()

def ofObject (fields : List Field) (o : Object) : Except Mismatch (Object × Object) := do
  let (known, others) ← sortOut fields [] o
  requireAll fields known
  return (known, others)

def elementCount (fields : List Field) : String :=
  Decimal.render fields.length ++ (if fields.length = 1 then " element" else " elements")

/-- Pairs fields with elements up to the end of the shorter; a field left over must be one that can
be filled, and no element may be left over. -/
def ofElements (type : String) (all : List Field) (items : List Json) :
    List Field → List Json → Except Mismatch Object
  | [], [] => .ok []
  | [], _ :: _ => .error (.wrongLength items.length "fewer elements in array")
  | f :: fields, [] =>
      if f.absence = .filled then ofElements type all items fields []
      else .error (.wrongLength items.length (type ++ " with " ++ elementCount all))
  | f :: fields, v :: rest => do
      f.check v
      let known ← ofElements type all items fields rest
      return (f.name, v) :: known

def read (type : String) (fields : List Field) : Decoder Object
  | .object o => (·.1) <$> ofObject fields o
  | .array items => ofElements ("struct " ++ type) fields items fields items
  | v => Decode.mismatch ("struct " ++ type) v

def get {α : Type} (known : Object) (name : String) (decode : Decoder α) : Except Mismatch α :=
  decode ((known.get? name).getD .null)

def get? {α : Type} (known : Object) (name : String) (decode : Decoder α) :
    Except Mismatch (Option α) :=
  get known name (Decode.optional decode)

def getD {α : Type} (known : Object) (name : String) (decode : Decoder α) (default : α) :
    Except Mismatch α :=
  match known.get? name with
  | some v => decode v
  | none => .ok default

end Fields

end MemoryBank
