import MemoryBank.Proofs.Fallible
import MemoryBank.Store.Database

set_option autoImplicit false

/-!
What the calls to a database do to the documents of its collections.
-/

namespace MemoryBank.Database

def documents (db : Database) (name : String) : List Document := (db.opened name).documents

@[simp] theorem opened_put (db : Database) (name other : String) (c : Collection) :
    (db.put name c).opened other = if other = name then c else db.opened other := by
  simp only [opened, find?, put, NameMap.get?_insert]
  split <;> rfl

theorem documents_put (db : Database) (name other : String) (c : Collection) :
    (db.put name c).documents other =
      if other = name then c.documents else db.documents other := by
  rw [documents, opened_put]
  split <;> rfl

theorem documents_of_find? {db : Database} {name : String} {c : Collection}
    (found : db.find? name = some c) : db.documents name = c.documents := by
  rw [documents, opened, found]
  rfl

theorem documents_of_missing {db : Database} {name : String} (missing : db.find? name = none) :
    db.documents name = [] := by
  rw [documents, opened, missing]
  rfl

theorem documents_dropCollection (db : Database) (dropped name : String) :
    (execute (.dropCollection dropped) db).2.documents name =
      if name = dropped then [] else db.documents name := by
  simp only [execute, documents, opened, find?, NameMap.get?_erase]
  split <;> rfl

/-- All documents stay as they are, and whether the store can be reached. -/
structure Frame (db db' : Database) : Prop where
  offline : db'.offline = db.offline
  documents : ∀ name, db'.documents name = db.documents name

theorem Frame.refl (db : Database) : Frame db db := ⟨rfl, fun _ => rfl⟩

theorem Frame.trans {db db' db'' : Database} (h : Frame db db') (h' : Frame db' db'') :
    Frame db db'' where
  offline := h'.offline.trans h.offline
  documents name := (h'.documents name).trans (h.documents name)

theorem frame_put {db : Database} {name : String} {c : Collection}
    (same : c.documents = db.documents name) : Frame db (db.put name c) where
  offline := rfl
  documents other := by
    rw [documents_put]
    split
    · next here => rw [here, same]
    · rfl

theorem frame_arrive (c : Call) (db : Database) : Frame db (arrive c db) := ⟨rfl, fun _ => rfl⟩

theorem perform_of_online {db : Database} (online : db.offline = false) (c : Call) :
    DocumentStore.perform c db = execute c (arrive c db) := by
  change answer c (arrive c db) = _
  rw [answer, show (arrive c db).offline = false from online]
  rfl

theorem perform_of_offline {db : Database} (offline : db.offline = true) (c : Call) :
    DocumentStore.perform c db = (.error (.store .unreachable), arrive c db) := by
  change answer c (arrive c db) = _
  rw [answer, show (arrive c db).offline = true from offline]
  rfl

/-- A call that does not reach the store changes no document, so only its execution matters. -/
theorem frame_perform {c : Call} {db : Database}
    (executed : db.offline = false → Frame (arrive c db) (execute c (arrive c db)).2) :
    Frame db (DocumentStore.perform c db).2 := by
  cases offline : db.offline with
  | true =>
    rw [perform_of_offline offline]
    exact frame_arrive c db
  | false =>
    rw [perform_of_online offline]
    exact (frame_arrive c db).trans (executed offline)

theorem frame_runCommand (command : Document) (db : Database) :
    Frame db (runCommand command db).2 := by
  unfold runCommand
  split
  · unfold createIndexes
    split
    · exact .refl db
    · exact frame_put rfl
  · exact .refl db
  · exact .refl db
  · unfold create
    split
    · exact .refl db
    · next new =>
      -- what is made anew has no documents, as what was not there had none
      refine frame_put ?_
      have missing : db.find? (Call.commandTarget command) = none := by
        simpa [NameMap.contains, find?] using new
      rw [documents_of_missing missing]
      rfl
  · exact .refl db
  · exact .refl db

theorem frame_command (command : Document) (db : Database) :
    Frame db (DocumentStore.perform (.command command) db).2 :=
  frame_perform fun _ => frame_runCommand command _

/-- One collection has grown by some documents, and the others have stayed as they are. -/
structure Appended (name : String) (added : List Document) (db db' : Database) : Prop where
  offline : db'.offline = db.offline
  grown : db'.documents name = db.documents name ++ added
  others : ∀ other, other ≠ name → db'.documents other = db.documents other

theorem Appended.after {name : String} {added : List Document} {db db' db'' : Database}
    (before : Frame db db') (h : Appended name added db' db'') : Appended name added db db'' where
  offline := h.offline.trans before.offline
  grown := by rw [h.grown, before.documents]
  others other away := (h.others other away).trans (before.documents other)

theorem identify_of_id {d : Document} (h : d.contains Document.idKey = true) (db : Database) :
    identify d db = (d, db) := by
  rw [identify, if_pos h]

theorem insertAll_appended {name : String} {ds : List Document} {n count : Nat}
    {db db' : Database} (ids : ∀ d ∈ ds, Object.contains d Document.idKey = true)
    (inserted : insertAll name n ds db = (.ok count, db')) : Appended name ds db db' := by
  -- the documents go in one by one, so the frame of the rest starts from the grown collection
  induction ds generalizing n db with
  | nil =>
    obtain rfl : db = db' := (Prod.mk.inj inserted).2
    exact ⟨rfl, (List.append_nil _).symm, fun _ _ => rfl⟩
  | cons d rest ih =>
    rw [List.forall_mem_cons] at ids
    rw [insertAll, identify_of_id ids.1] at inserted
    simp only at inserted
    split at inserted
    · cases (Prod.mk.inj inserted).1
    · have behind := ih ids.2 inserted
      refine ⟨behind.offline, ?_, fun other away => ?_⟩
      · rw [behind.grown, documents_put, if_pos rfl, List.append_assoc]
        rfl
      · rw [behind.others other away, documents_put, if_neg away]

theorem perform_insert {name : String} {ds : List Document} {count : Nat} {db db' : Database}
    (ids : ∀ d ∈ ds, Object.contains d Document.idKey = true)
    (inserted : DocumentStore.perform (.insert name ds) db = (.ok count, db')) :
    db.offline = false ∧ Appended name ds db db' := by
  change answer (.insert name ds) (arrive (.insert name ds) db) = _ at inserted
  rw [answer] at inserted
  split at inserted
  · cases (Prod.mk.inj inserted).1
  · next online =>
    have reachable : (arrive (.insert name ds) db).offline = false := by simpa using online
    refine ⟨reachable, ?_⟩
    exact .after (frame_arrive _ db) (.after (frame_put rfl) (insertAll_appended ids inserted))

theorem deleteSelected_of_satisfies {filter : Document} {selected : Document → Bool}
    {ds : List Document} (judged : ∀ d ∈ ds, d.satisfies filter = .ok (selected d)) :
    deleteSelected filter ds = .ok (ds.countP selected, ds.filter (!selected ·)) := by
  induction ds with
  | nil => rfl
  | cons d rest ih =>
    rw [List.forall_mem_cons] at judged
    rw [deleteSelected, judged.1, ih judged.2]
    cases choice : selected d <;> simp [choice, pure, Except.pure]

theorem selectFirst_of_satisfies {filter : Document} {selected : Document → Bool}
    {ds : List Document} (judged : ∀ d ∈ ds, d.satisfies filter = .ok (selected d)) (limit : Nat) :
    Document.selectFirst filter limit ds = .ok ((ds.filter selected).take limit) := by
  induction ds generalizing limit with
  | nil => cases limit <;> rfl
  | cons d rest ih =>
    rw [List.forall_mem_cons] at judged
    cases limit with
    | zero => rfl
    | succ limit =>
      rw [Document.selectFirst, judged.1]
      cases choice : selected d <;> simp [choice, ih judged.2, pure, Except.pure]

theorem mem_of_selectFirst {filter : Document} {limit : Nat} {ds found : List Document}
    (selected : Document.selectFirst filter limit ds = .ok found) {d : Document}
    (member : d ∈ found) : d ∈ ds ∧ d.satisfies filter = .ok true := by
  induction ds generalizing limit found with
  | nil =>
    have none : found = [] := by cases limit <;> exact (Except.ok.inj selected).symm
    rw [none] at member
    cases member
  | cons first rest ih =>
    cases limit with
    | zero =>
      obtain rfl := Except.ok.inj selected
      cases member
    | succ limit =>
      obtain ⟨passed, judged, selected⟩ := Fallible.bind_eq_ok.mp selected
      cases passed with
      | false =>
        obtain ⟨among, satisfied⟩ := ih selected member
        exact ⟨List.mem_cons_of_mem first among, satisfied⟩
      | true =>
        obtain ⟨others, behind, value⟩ := Fallible.bind_eq_ok.mp selected
        obtain rfl := Except.ok.inj value
        rcases List.mem_cons.mp member with rfl | member
        · exact ⟨List.mem_cons_self, judged⟩
        · obtain ⟨among, satisfied⟩ := ih behind member
          exact ⟨List.mem_cons_of_mem first among, satisfied⟩

theorem mem_of_find {db : Database} {name : String} {filter : Document} {limit : Option Nat}
    {found : List Document} (listed : find name filter limit db = .ok found) {d : Document}
    (member : d ∈ found) : d ∈ db.documents name ∧ d.satisfies filter = .ok true := by
  unfold find at listed
  cases here : db.find? name with
  | none =>
    rw [here] at listed
    obtain rfl := Except.ok.inj listed
    cases member
  | some c =>
    rw [here] at listed
    rw [documents_of_find? here]
    exact mem_of_selectFirst listed member

theorem find_of_satisfies {db : Database} {name : String} {filter : Document}
    {selected : Document → Bool}
    (judged : ∀ d ∈ db.documents name, d.satisfies filter = .ok (selected d)) :
    find name filter none db = .ok ((db.documents name).filter selected) := by
  unfold find
  cases found : db.find? name with
  | none =>
    rw [documents_of_missing found]
    rfl
  | some c =>
    rw [documents_of_find? found] at judged ⊢
    -- without a limit the search goes on to the end of the collection
    have bound : (c.documents.filter selected).length ≤ c.documents.length :=
      List.length_filter_le ..
    simp only
    rw [selectFirst_of_satisfies judged, List.take_of_length_le bound]

theorem find_first_of_satisfies {db : Database} {name : String} {filter : Document}
    {selected : Document → Bool}
    (judged : ∀ d ∈ db.documents name, d.satisfies filter = .ok (selected d)) (limit : Nat) :
    find name filter (some (limit + 1)) db =
      .ok (((db.documents name).filter selected).take (limit + 1)) := by
  unfold find
  cases found : db.find? name with
  | none =>
    rw [documents_of_missing found]
    rfl
  | some c =>
    rw [documents_of_find? found] at judged ⊢
    exact selectFirst_of_satisfies judged (limit + 1)

theorem deleteMany_of_satisfies {db : Database} {name : String} {filter : Document}
    {selected : Document → Bool}
    (judged : ∀ d ∈ db.documents name, d.satisfies filter = .ok (selected d)) :
    (deleteMany name filter db).1 = .ok ((db.documents name).countP selected) ∧
      (deleteMany name filter db).2.documents name = (db.documents name).filter (!selected ·) := by
  unfold deleteMany
  cases found : db.find? name with
  | none => simp [documents_of_missing found]
  | some c =>
    rw [documents_of_find? found] at judged ⊢
    simp only [deleteSelected_of_satisfies judged, documents_put, if_true]
    exact ⟨trivial, trivial⟩

theorem perform_find {db : Database} (online : db.offline = false) {name : String}
    {filter : Document} {selected : Document → Bool}
    (judged : ∀ d ∈ db.documents name, d.satisfies filter = .ok (selected d)) :
    DocumentStore.perform (.find name filter none) db =
      (.ok ((db.documents name).filter selected), arrive (.find name filter none) db) := by
  rw [perform_of_online online]
  exact Prod.ext (@find_of_satisfies (arrive _ db) _ _ _ judged) rfl

theorem perform_deleteMany {db : Database} (online : db.offline = false) {name : String}
    {filter : Document} {selected : Document → Bool}
    (judged : ∀ d ∈ db.documents name, d.satisfies filter = .ok (selected d)) :
    (DocumentStore.perform (.deleteMany name filter) db).1 =
        .ok ((db.documents name).countP selected) ∧
      (DocumentStore.perform (.deleteMany name filter) db).2.documents name =
        (db.documents name).filter (!selected ·) := by
  rw [perform_of_online online]
  exact @deleteMany_of_satisfies (arrive _ db) _ _ _ judged

end MemoryBank.Database
