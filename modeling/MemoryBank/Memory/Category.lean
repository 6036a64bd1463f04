import MemoryBank.Decode.Fields
import MemoryBank.Failure
import MemoryBank.Text.LetterCase

set_option autoImplicit false

namespace MemoryBank

inductive Category
  | semantic
  | episodic
  | fact
  | preference
  deriving DecidableEq, Inhabited

namespace Category

def name : Category → String
  | semantic => "semantic"
  | episodic => "episodic"
  | fact => "fact"
  | preference => "preference"

def all : List Category := [semantic, episodic, fact, preference]

/-- The category of this name, in either case; what is not one comes back in lower case. -/
def ofText (text : String) : Except String Category :=
  let lowered := Text.lower text
  match all.find? (·.name == lowered) with
  | some category => .ok category
  | none => .error lowered

def unknownText (name : String) : String := "invalid memory category: '" ++ name ++ "'"

def decode : Decoder Category := Decode.variant (all.map fun c => (c.name, c))

def toJson (category : Category) : Json := .string category.name

end Category

end MemoryBank
