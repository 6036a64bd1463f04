import MemoryBank.Json.Printer
import MemoryBank.Text.Quoted

set_option autoImplicit false

/-!
Why a value does not have the type asked of it.
-/

namespace MemoryBank

inductive Found
  | null
  | bool (b : Bool)
  | integer (n : Int)
  | float (x : Float)
  | text (s : String)
  | sequence
  | map
  deriving DecidableEq

def Found.ofJson : Json → Found
  | .null => .null
  | .bool b => .bool b
  | .number (.int n) => .integer n
  | .number (.float x) => .float x
  | .string s => .text s
  | .array _ => .sequence
  | .object _ => .map

def Found.describe : Found → String
  | .null => "null"
  | .bool true => "boolean `true`"
  | .bool false => "boolean `false`"
  | .integer n => "integer `" ++ Decimal.render n ++ "`"
  | .float x => "floating point `" ++ String.ofList (Json.floatChars x) ++ "`"
  | .text s => "string " ++ Text.quoted s
  | .sequence => "sequence"
  | .map => "map"

inductive Mismatch
  | wrongType (found : Found) (expected : String)
  | wrongValue (found : Found) (expected : String)
  | wrongLength (length : Nat) (expected : String)
  | missingField (name : String)
  | duplicateField (name : String)
  | unknownVariant (name : String) (options : List String)
  | noVariant (type : String)
  deriving DecidableEq

namespace Mismatch

def ticked (s : String) : String := "`" ++ s ++ "`"

def describeOptions : List String → String
  | [] => "there are no variants"
  | [a] => "expected " ++ ticked a
  | [a, b] => "expected " ++ ticked a ++ " or " ++ ticked b
  | options => "expected one of " ++ String.intercalate ", " (options.map ticked)

def message : Mismatch → String
  | wrongType found expected => "invalid type: " ++ found.describe ++ ", expected " ++ expected
  | wrongValue found expected => "invalid value: " ++ found.describe ++ ", expected " ++ expected
  | wrongLength length expected =>
      "invalid length " ++ Decimal.render length ++ ", expected " ++ expected
  | missingField name => "missing field " ++ ticked name
  | duplicateField name => "duplicate field " ++ ticked name
  | unknownVariant name options =>
      "unknown variant " ++ ticked name ++ ", " ++ describeOptions options
  | noVariant type => "data did not match any variant of untagged enum " ++ type

end Mismatch

end MemoryBank
