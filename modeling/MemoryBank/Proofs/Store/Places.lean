import MemoryBank.Proofs.Store.Operations

set_option autoImplicit false

/-!
Which collections there are, and with which indexes: only a few calls of an adapter change anything
about that.
-/

namespace MemoryBank

namespace Database

/-- The indexes of a collection, if it is there. -/
def catalogue? (db : Database) (name : String) : Option (List Document) :=
  (db.find? name).map (·.indexes)

variable {db : Database} {name target : String}

@[simp] theorem isSome_catalogue? : (db.catalogue? name).isSome = (db.find? name).isSome := by
  simp [catalogue?]

theorem indexes_eq (db : Database) (name : String) :
    db.indexes name = (db.catalogue? name).getD [] := by
  rw [indexes, opened, catalogue?]
  cases db.find? name <;> rfl

theorem catalogue?_of_find? {c : Collection} (found : db.find? name = some c) :
    db.catalogue? name = some c.indexes := by
  simp [catalogue?, found]

@[simp] theorem find?_put_self (db : Database) (target : String) (c : Collection) :
    (db.put target c).find? target = some c := by
  simp [find?, put]

theorem catalogue?_put (db : Database) (target name : String) (c : Collection) :
    (db.put target c).catalogue? name =
      if name = target then some c.indexes else db.catalogue? name := by
  simp only [catalogue?, find?, put, NameMap.get?_insert]
  split <;> rfl

theorem catalogue?_put_documents {c : Collection} (found : db.find? target = some c)
    (documents : List Document) (name : String) :
    (db.put target { c with documents := documents }).catalogue? name = db.catalogue? name := by
  rw [catalogue?_put]
  split
  · next here => rw [here, catalogue?_of_find? found]
  · rfl

theorem catalogue?_insertAll {c : Collection} (found : db.find? target = some c)
    (ds : List Document) (n : Nat) (name : String) :
    (insertAll target n ds db).2.catalogue? name = db.catalogue? name := by
  induction ds generalizing n db c with
  | nil => rfl
  | cons d rest ih =>
    have noted : (identify d db).2.find? = db.find? := by
      unfold identify
      split <;> rfl
    have same : (identify d db).2.catalogue? = db.catalogue? := by
      funext name
      rw [catalogue?, noted, catalogue?]
    have here : (identify d db).2.opened target = c := by rw [opened, noted, found]; rfl
    rw [insertAll]
    simp only
    split
    · rw [same]
    · rw [ih (find?_put_self ..), here, catalogue?_put_documents (noted ▸ found), same]

theorem catalogue?_insert (ds : List Document) (name : String) :
    (insert target ds db).2.catalogue? name =
      if name = target then some (db.indexes target) else db.catalogue? name := by
  rw [insert, catalogue?_insertAll (find?_put_self ..), catalogue?_put]
  rfl

end Database

namespace Call

/-- The call changes neither which collections there are nor their indexes. -/
def plain : Call → Bool
  | createCollection _ | dropCollection _ | insert _ _ => false
  | command c => commandName c != createIndexesCommand && commandName c != "create"
  | _ => true

/-- The call makes the collection, unless it is there. -/
def opens (name : String) : Call → Bool
  | createCollection target | insert target _ => target == name
  | _ => false

@[simp] theorem verb_command (key name : String) :
    (Call.command (Document.command key name)).verb = key := rfl

theorem verb_of_plain {c : Call} (plain : c.plain = true) : c.verb ≠ createIndexesCommand := by
  cases c with
  | command command =>
    simp only [Call.plain, Bool.and_eq_true, bne_iff_ne] at plain
    exact plain.1
  | _ => simp [verb, createIndexesCommand]

theorem verb_of_opens {c : Call} {name : String} (opens : c.opens name = true) :
    c.verb ≠ createIndexesCommand := by
  cases c with
  | createCollection _ | insert _ _ => simp [verb, createIndexesCommand]
  | _ => cases opens

end Call

namespace Database

variable {db : Database} {c : Call}

theorem catalogue?_perform_of_plain (plain : c.plain = true) (db : Database) (name : String) :
    (DocumentStore.perform c db).2.catalogue? name = db.catalogue? name := by
  cases online : db.offline with
  | true =>
    rw [perform_of_offline online]
    rfl
  | false =>
    rw [perform_of_online online]
    have same : (arrive c db).catalogue? name = db.catalogue? name := rfl
    rw [← same]
    generalize arrive c db = db
    cases c with
    | collectionNames | find _ _ _ | findOne _ _ | aggregate _ _ => rfl
    | createCollection _ | dropCollection _ | insert _ _ => cases plain
    | command command =>
      simp only [Call.plain, Bool.and_eq_true, bne_iff_ne] at plain
      simp only [execute, runCommand]
      split
      · next here => exact absurd here plain.1
      · rfl
      · rfl
      · next here => exact absurd here plain.2
      · rfl
      · rfl
    | update target filter change =>
      simp only [execute, update]
      cases found : db.find? target with
      | none => rfl
      | some c => exact catalogue?_put_documents found _ name
    | deleteOne target filter =>
      simp only [execute, deleteOne]
      cases found : db.find? target with
      | none => rfl
      | some c => exact catalogue?_put_documents found _ name
    | deleteMany target filter =>
      simp only [execute, deleteMany]
      cases found : db.find? target with
      | none => rfl
      | some c =>
        simp only
        cases deleteSelected filter c.documents with
        | error cause => exact catalogue?_put_documents found _ name
        | ok r => exact catalogue?_put_documents found _ name

theorem catalogue?_perform_of_opens (online : db.offline = false) {target : String}
    (opens : c.opens target = true) (name : String) :
    (DocumentStore.perform c db).2.catalogue? name =
      if name = target then some (db.indexes target) else db.catalogue? name := by
  rw [perform_of_online online]
  cases c with
  | createCollection other =>
    obtain rfl : other = target := beq_iff_eq.mp opens
    exact catalogue?_put _ _ _ _
  | insert other ds =>
    obtain rfl : other = target := beq_iff_eq.mp opens
    exact @catalogue?_insert (arrive _ db) other ds name
  | _ => cases opens

theorem indexes_perform (quiet : c.plain = true ∨ ∃ target, c.opens target = true)
    (db : Database) (name : String) :
    (DocumentStore.perform c db).2.indexes name = db.indexes name := by
  cases online : db.offline with
  | true => rw [perform_of_offline online]; rfl
  | false =>
    rcases quiet with plain | ⟨target, opens⟩
    · simp only [indexes_eq, catalogue?_perform_of_plain plain]
    · rw [indexes_eq, catalogue?_perform_of_opens online opens]
      split
      · next here => rw [here]; rfl
      · exact (indexes_eq db name).symm

end Database

namespace Operation

variable {v : VectorStore} {o : Operation} {c : Call}

theorem plain_or_opens_of_makes (makes : o.Makes v c) :
    c.plain = true ∨ ∃ target, c.opens target = true := by
  cases o with
  | ensureIndex | deleteCollection _ => cases makes
  | createCollection name _ =>
    obtain rfl := makes
    exact .inr ⟨name, beq_self_eq_true name⟩
  | insert _ _ _ =>
    obtain ⟨_, -, rfl⟩ := makes
    exact .inr ⟨v.collection, beq_self_eq_true v.collection⟩
  | search _ _ _ | list _ _ | update _ _ =>
    obtain ⟨_, rfl⟩ := makes
    exact .inl rfl
  | reset =>
    obtain rfl := makes
    exact .inr ⟨v.collection, beq_self_eq_true v.collection⟩
  | collectionInfo _ =>
    obtain rfl := makes
    exact .inl rfl
  | sweep _ => rcases makes with rfl | rfl <;> exact .inl rfl
  | _ =>
    cases makes
    exact .inl rfl

/-- What an operation calls by itself leaves the indexes of all collections as they are. -/
theorem indexes_perform_of_makes (makes : o.Makes v c) (db : Database) (name : String) :
    (DocumentStore.perform c db).2.indexes name = db.indexes name :=
  Database.indexes_perform (plain_or_opens_of_makes makes) db name

theorem verb_of_makes (makes : o.Makes v c) : c.verb ≠ createIndexesCommand := by
  rcases plain_or_opens_of_makes makes with plain | ⟨target, opens⟩
  · exact Call.verb_of_plain plain
  · exact Call.verb_of_opens opens

end Operation

end MemoryBank
