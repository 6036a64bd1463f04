import MemoryBank.Store.Path

set_option autoImplicit false

/-!
Updates of one document. Modifiers act one after another; what was done before one fails stays.
-/

namespace MemoryBank.Update

def setAll : Object → Document → Result Unit × Document
  | [], d => (.ok (), d)
  | (path, value) :: rest, d =>
      if path = "_id" then (.error (.store .idChange), d)
      else match d.setPath value (Path.ofText path) with
        | .ok d => setAll rest d
        | .error cause => (.error cause, d)

def unsetAll (fields : Object) (d : Document) : Document :=
  fields.foldl (fun d f => d.erasePath (Path.ofText f.1)) d

def modify (modifier : String) (fields : Object) (d : Document) : Result Unit × Document :=
  if modifier = "$set" then setAll fields d
  else if modifier = "$unset" then (.ok (), unsetAll fields d)
  else (.error (.store (.unknownModifier modifier)), d)

def applyAll : Object → Document → Result Unit × Document
  | [], d => (.ok (), d)
  | (modifier, .object fields) :: rest, d =>
      match modify modifier fields d with
      | (.ok (), d) => applyAll rest d
      | (.error cause, d) => (.error cause, d)
  | (modifier, _) :: _, d => (.error (.store (.modifierNotDocument modifier)), d)

/-- What an update makes of a document, and whether it went through. -/
def apply (update d : Document) : Result Unit × Document :=
  if update.isEmpty then (.error (.store .emptyUpdate), d) else applyAll update d

end MemoryBank.Update
