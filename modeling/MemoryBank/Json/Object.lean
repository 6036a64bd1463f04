import MemoryBank.Json.Basic

set_option autoImplicit false

/-!
Objects as ordered maps. `insert` keeps a known key where it stands and appends a new one; `erase`
fills the gap with the last entry.
-/

namespace MemoryBank.Object

def keys (o : Object) : List String := o.map (·.1)

def get? : Object → String → Option Json
  | [], _ => none
  | (k, v) :: rest, key => if k = key then some v else get? rest key

def contains (o : Object) (key : String) : Bool := (get? o key).isSome

def insert : Object → String → Json → Object
  | [], key, value => [(key, value)]
  | (k, v) :: rest, key, value =>
      if k = key then (k, value) :: rest else (k, v) :: insert rest key value

def insertAll (o entries : Object) : Object := entries.foldl (fun acc e => acc.insert e.1 e.2) o

def lastFirst : Object → Object
  | [] => []
  | e :: rest => (e :: rest).getLast (by simp) :: (e :: rest).dropLast

def erase : Object → String → Object
  | [], _ => []
  | (k, v) :: rest, key => if k = key then lastFirst rest else (k, v) :: erase rest key

def WellFormed (o : Object) : Prop := (Json.object o).WellFormed

@[simp] theorem get?_nil (key : String) : get? [] key = none := rfl

@[simp] theorem get?_cons (k : String) (v : Json) (rest : Object) (key : String) :
    get? ((k, v) :: rest) key = if k = key then some v else get? rest key := rfl

@[simp] theorem get?_insert_self (o : Object) (key : String) (value : Json) :
    get? (insert o key value) key = some value := by
  induction o with
  | nil => simp [insert]
  | cons e rest ih =>
      obtain ⟨k, v⟩ := e
      by_cases h : k = key <;> simp [insert, h, ih]

theorem get?_insert_of_ne (o : Object) {key other : String} (value : Json) (h : key ≠ other) :
    get? (insert o key value) other = get? o other := by
  induction o with
  | nil => simp [insert, h]
  | cons e rest ih =>
      obtain ⟨k, v⟩ := e
      by_cases hk : k = key
      · subst hk; simp [insert, h]
      · simp [insert, hk, ih]

end MemoryBank.Object
