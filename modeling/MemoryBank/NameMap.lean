set_option autoImplicit false

/-!
Maps from names, kept in the order of the names.
-/

namespace MemoryBank

structure NameMap (α : Type) where
  entries : List (String × α)
  deriving Inhabited

namespace NameMap

variable {α : Type}

def empty : NameMap α := ⟨[]⟩

instance : EmptyCollection (NameMap α) := ⟨empty⟩

def names (m : NameMap α) : List String := m.entries.map (·.1)

def lookup : List (String × α) → String → Option α
  | [], _ => none
  | (k, a) :: rest, name => if k = name then some a else lookup rest name

def get? (m : NameMap α) (name : String) : Option α := lookup m.entries name

def contains (m : NameMap α) (name : String) : Bool := (m.get? name).isSome

def without : List (String × α) → String → List (String × α)
  | [], _ => []
  | (k, a) :: rest, name => if k = name then without rest name else (k, a) :: without rest name

def place (name : String) (a : α) : List (String × α) → List (String × α)
  | [] => [(name, a)]
  | (k, b) :: rest => if name < k then (name, a) :: (k, b) :: rest else (k, b) :: place name a rest

def insert (m : NameMap α) (name : String) (a : α) : NameMap α :=
  ⟨place name a (without m.entries name)⟩

def erase (m : NameMap α) (name : String) : NameMap α := ⟨without m.entries name⟩

def insertAll (m : NameMap α) (entries : List (String × α)) : NameMap α :=
  entries.foldl (fun acc e => acc.insert e.1 e.2) m

def ofList (entries : List (String × α)) : NameMap α := insertAll empty entries

theorem lookup_without (entries : List (String × α)) (name other : String) :
    lookup (without entries name) other = if other = name then none else lookup entries other := by
  induction entries with
  | nil => simp [without, lookup]
  | cons e rest ih =>
      obtain ⟨k, b⟩ := e
      by_cases hk : k = name
      · subst hk
        by_cases ho : other = k
        · subst ho; simpa [without] using ih
        · simp [without, lookup, ih, ho, Ne.symm ho]
      · by_cases ho : other = name
        · subst ho; simp [without, lookup, ih, hk]
        · simp [without, lookup, ih, hk, ho]

theorem lookup_place {entries : List (String × α)} {name : String}
    (absent : lookup entries name = none) (a : α) (other : String) :
    lookup (place name a entries) other =
      if other = name then some a else lookup entries other := by
  induction entries with
  | nil => simp [place, lookup, eq_comm]
  | cons e rest ih =>
      obtain ⟨k, b⟩ := e
      have hk : ¬k = name := by intro h; simp [lookup, h] at absent
      have absent' : lookup rest name = none := by simpa [lookup, hk] using absent
      by_cases ho : other = name
      · subst ho
        by_cases hlt : other < k <;> simp [place, lookup, hlt, hk, ih absent']
      · by_cases hlt : name < k <;> simp [place, lookup, hlt, ho, Ne.symm ho, ih absent']

@[simp] theorem get?_insert (m : NameMap α) (name : String) (a : α) (other : String) :
    (m.insert name a).get? other = if other = name then some a else m.get? other := by
  have absent : lookup (without m.entries name) name = none := by simp [lookup_without]
  simp only [get?, insert, lookup_place absent, lookup_without]
  by_cases h : other = name <;> simp [h]

@[simp] theorem get?_erase (m : NameMap α) (name other : String) :
    (m.erase name).get? other = if other = name then none else m.get? other :=
  lookup_without m.entries name other

end NameMap

end MemoryBank
