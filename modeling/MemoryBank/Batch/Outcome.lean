import MemoryBank.Decode.Fields
import MemoryBank.Failure

set_option autoImplicit false

/-!
Outcomes of a batch: one for each item, in the order of the items.
-/

namespace MemoryBank

inductive ItemStatus
  | ok
  | error
  deriving DecidableEq, Inhabited

structure ItemResult (α : Type) where
  /-- The place of the item in the batch. -/
  index : Nat
  status : ItemStatus
  result : Option α
  error : Option String
  deriving DecidableEq, Inhabited

structure BatchResponse (α : Type) where
  results : List (ItemResult α)
  total : Nat
  succeeded : Nat
  failed : Nat

namespace ItemStatus

def name : ItemStatus → String
  | ok => "ok"
  | error => "error"

def decode : Decoder ItemStatus := Decode.variant [("ok", ok), ("error", error)]

end ItemStatus

namespace ItemResult

variable {α : Type}

def succeeded (index : Nat) (a : α) : ItemResult α := ⟨index, .ok, some a, none⟩

def failed (index : Nat) (message : String) : ItemResult α := ⟨index, .error, none, some message⟩

def isOk (r : ItemResult α) : Bool := r.status == .ok

def toJson (f : α → Json) (r : ItemResult α) : Json :=
  .object [("index", .ofNat r.index), ("status", .string r.status.name),
    ("result", Json.ofOption f r.result), ("error", Json.ofOption .string r.error)]

def fields (decode : Decoder α) : List Field :=
  [.required "index" Decode.size, .required "status" ItemStatus.decode,
    .nullable "result" decode, .nullable "error" Decode.text]

def decode (decodeResult : Decoder α) (v : Json) : Except Mismatch (ItemResult α) := do
  let known ← Fields.read "BatchItemResult" (fields decodeResult) v
  return {
    index := ← Fields.get known "index" Decode.size
    status := ← Fields.get known "status" ItemStatus.decode
    result := ← Fields.get? known "result" decodeResult
    error := ← Fields.get? known "error" Decode.text }

end ItemResult

namespace BatchResponse

variable {α : Type}

def ofResults (results : List (ItemResult α)) : BatchResponse α :=
  let succeeded := results.countP (·.isOk)
  ⟨results, results.length, succeeded, results.length - succeeded⟩

def toJson (f : α → Json) (r : BatchResponse α) : Json :=
  .object [("results", .array (r.results.map (·.toJson f))), ("total", .ofNat r.total),
    ("succeeded", .ofNat r.succeeded), ("failed", .ofNat r.failed)]

@[simp] theorem total_ofResults (results : List (ItemResult α)) :
    (ofResults results).total = results.length := rfl

theorem succeeded_add_failed (results : List (ItemResult α)) :
    (ofResults results).succeeded + (ofResults results).failed = (ofResults results).total := by
  have := List.countP_le_length (p := (·.isOk)) (l := results)
  simp only [ofResults]; omega

end BatchResponse

end MemoryBank
