import MemoryBank.Proofs.Json.Objects
import MemoryBank.Store.Path

set_option autoImplicit false

/-!
Lookups along dotted paths. The parts of a path have no dots, so an entry with a dot in its key is
never met.
-/

namespace MemoryBank

namespace Text

theorem splitAll_of_not_mem {separator : Char} {cs : List Char} (h : separator ∉ cs) :
    splitAll separator cs = [cs] := by
  induction cs with
  | nil => rfl
  | cons c rest ih =>
    simp only [List.mem_cons, not_or] at h
    simp [splitAll, ih h.2, Ne.symm h.1]

theorem splitAll_append {separator : Char} {before : List Char} (h : separator ∉ before)
    (after : List Char) :
    splitAll separator (before ++ separator :: after) = before :: splitAll separator after := by
  induction before with
  | nil =>
    rw [List.nil_append, splitAll]
    split
    · next none => exact absurd none (splitAll_ne_nil separator after)
    · next parts => simp [parts]
  | cons c rest ih =>
    simp only [List.mem_cons, not_or] at h
    simp [splitAll, ih h.2, Ne.symm h.1]

theorem eq_of_splitAll {separator : Char} {cs part : List Char}
    (whole : splitAll separator cs = [part]) : part = cs := by
  induction cs generalizing part with
  | nil => exact (List.cons.inj whole).1.symm
  | cons c rest ih =>
    rw [splitAll] at whole
    split at whole
    · next none => exact absurd none (splitAll_ne_nil separator rest)
    · next first others parts =>
      split at whole
      · cases whole
      · obtain ⟨rfl, rfl⟩ := List.cons.inj whole
        rw [ih parts]

theorem not_mem_of_mem_splitAll {separator : Char} {cs part : List Char}
    (h : part ∈ splitAll separator cs) : separator ∉ part := by
  induction cs generalizing part with
  | nil =>
    obtain rfl : part = [] := by simpa [splitAll] using h
    simp
  | cons c rest ih =>
    rw [splitAll] at h
    split at h
    · next none => exact absurd none (splitAll_ne_nil separator rest)
    · next first others parts =>
      rw [parts] at ih
      -- a separator opens an empty part, any other character joins the first one
      by_cases same : c = separator
      · rw [if_pos same] at h
        rcases List.mem_cons.mp h with rfl | member
        · simp
        · exact ih member
      · rw [if_neg same] at h
        rcases List.mem_cons.mp h with rfl | member
        · simp only [List.mem_cons, not_or]
          exact ⟨Ne.symm same, ih List.mem_cons_self⟩
        · exact ih (List.mem_cons_of_mem _ member)

end Text

/-- The key can be the part of a path. -/
def Path.IsPart (key : String) : Prop := '.' ∉ key.toList

instance (key : String) : Decidable (Path.IsPart key) := inferInstanceAs (Decidable (_ ∉ _))

namespace Path

theorem ofText_of_isPart {text : String} (h : IsPart text) : ofText text = [text] := by
  simp [ofText, Text.splitAll_of_not_mem h]

theorem eq_of_ofText {text part : String} (whole : ofText text = [part]) : text = part := by
  obtain ⟨cs, split, rfl⟩ := List.map_eq_singleton_iff.mp whole
  rw [Text.eq_of_splitAll split, String.ofList_toList]

theorem isPart_of_mem_ofText {text part : String} (h : part ∈ ofText text) : IsPart part := by
  obtain ⟨cs, member, rfl⟩ := List.mem_map.mp h
  simpa [IsPart] using Text.not_mem_of_mem_splitAll member

theorem ofText_append {before : String} (h : IsPart before) (after : String) :
    ofText (before ++ "." ++ after) = before :: ofText after := by
  have split := Text.splitAll_append h after.toList
  simp [ofText, split]

end Path

namespace Object

theorem getPath?_object {o inner : Object} {key : String} {path : Path} (reaches : path ≠ [])
    (h : o.get? key = some (.object inner)) : o.getPath? (key :: path) = inner.getPath? path := by
  cases path with
  | nil => exact absurd rfl reaches
  | cons next rest => simp [getPath?, h]

theorem getPath?_nil (path : Path) : getPath? [] path = none := by
  cases path with
  | nil => rfl
  | cons field rest => cases rest <;> rfl

theorem getPath?_blocked {o : Object} {key : String} {path : Path} (reaches : path ≠ [])
    (h : ∀ inner, o.get? key ≠ some (.object inner)) : o.getPath? (key :: path) = none := by
  cases path with
  | nil => exact absurd rfl reaches
  | cons next rest =>
    rw [getPath?]
    · split
      · next inner found => exact absurd found (h inner)
      · rfl
    · exact List.cons_ne_nil next rest

theorem getPath?_isPart (o : Object) {text : String} (h : Path.IsPart text) :
    o.getPath? (Path.ofText text) = o.get? text := by
  rw [Path.ofText_of_isPart h]
  rfl

theorem getPath?_congr {o o' : Object} {key : String} (h : o.get? key = o'.get? key) (path : Path) :
    o.getPath? (key :: path) = o'.getPath? (key :: path) := by
  cases path with
  | nil => exact h
  | cons next rest => simp only [getPath?, h]

theorem getPath?_insert_of_not_isPart (o : Object) {key : String} (h : ¬Path.IsPart key) (v : Json)
    (text : String) :
    (o.insert key v).getPath? (Path.ofText text) = o.getPath? (Path.ofText text) := by
  -- the key could only be met as the first part, and parts have no dots
  cases parts : Path.ofText text with
  | nil => exact absurd parts (Path.ofText_ne_nil text)
  | cons first rest =>
    have member : first ∈ Path.ofText text := by simp [parts]
    have part : Path.IsPart first := Path.isPart_of_mem_ofText member
    have other : key ≠ first := fun same => h (same ▸ part)
    exact getPath?_congr (get?_insert_of_ne o v other) rest

end Object

end MemoryBank
