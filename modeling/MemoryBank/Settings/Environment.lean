import MemoryBank.Settings.Config

set_option autoImplicit false

/-!
Environment variables that override the configuration. A number that cannot be read is an error.
-/

namespace MemoryBank

inductive IntegerFault
  | empty
  | badDigit
  | tooLarge
  | tooSmall
  deriving DecidableEq

structure ConfigFault where
  key : String
  value : String
  fault : IntegerFault
  deriving DecidableEq

def IntegerFault.message : IntegerFault → String
  | empty => "cannot parse integer from empty string"
  | badDigit => "invalid digit found in string"
  | tooLarge => "number too large to fit in target type"
  | tooSmall => "number too small to fit in target type"

def ConfigFault.message (e : ConfigFault) : String :=
  "invalid value for " ++ e.key ++ ": '" ++ e.value ++ "': " ++ e.fault.message

namespace Decimal

def isDigit (c : Char) : Bool := '0' ≤ c && c ≤ '9'

/-- Digits after an optional sign, the minus only where negative numbers are allowed; the first
fault from the left is reported. -/
def readInteger (low high : Int) (cs : List Char) : Except IntegerFault Int :=
  match cs with
  | [] => .error .empty
  | '+' :: ds => readDigits 1 ds
  | '-' :: ds => if low < 0 then readDigits (-1) ds else .error .badDigit
  | ds => readDigits 1 ds
where
  readDigits (sign : Int) (ds : List Char) : Except IntegerFault Int :=
    if ds.isEmpty then .error .badDigit else go sign 0 ds
  go (sign : Int) (n : Nat) : List Char → Except IntegerFault Int
    | [] => .ok (sign * n)
    | c :: rest =>
        if ¬ isDigit c then .error .badDigit
        else
          let next := n * 10 + (c.toNat - 0x30)
          if high < sign * next then .error .tooLarge
          else if sign * next < low then .error .tooSmall
          else go sign next rest

end Decimal

namespace Config

def readVariable (key : String) (low high : Int) (value : String) : Except ConfigFault Int :=
  match Decimal.readInteger low high (Text.trimList value.toList) with
  | .ok n => .ok n
  | .error fault => .error ⟨key, value, fault⟩

def variableNames : List String :=
  ["DOCMEM_STORE_URI", "DOCMEM_DATABASE", "DOCMEM_COLLECTION", "DOCMEM_INDEX_KIND",
    "DOCMEM_EMBEDDING_DIMS", "DOCMEM_DEFAULT_TTL_SECONDS", "DOCMEM_MAX_BATCH_SIZE"]

def override (c : Config) (lookup : String → Option String) : Except ConfigFault Config := do
  let number (key : String) (low high current : Int) : Except ConfigFault Int :=
    match lookup key with
    | some value => readVariable key low high value
    | none => .ok current
  let dims ← number "DOCMEM_EMBEDDING_DIMS" 0 (Word.bound32 - 1) c.embeddingDims
  let lifetime ←
    number "DOCMEM_DEFAULT_TTL_SECONDS" (-Word.half64) (Word.half64 - 1) c.defaultLifetime
  let batch ← number "DOCMEM_MAX_BATCH_SIZE" 0 (Word.bound64 - 1) c.maxBatchSize
  return {
    storeUri := (lookup "DOCMEM_STORE_URI").getD c.storeUri
    database := (lookup "DOCMEM_DATABASE").getD c.database
    collection := (lookup "DOCMEM_COLLECTION").getD c.collection
    indexKind := (lookup "DOCMEM_INDEX_KIND").getD c.indexKind
    embeddingDims := dims.toNat
    defaultLifetime := lifetime
    maxBatchSize := batch.toNat }

end Config

end MemoryBank
