import MemoryBank.Proofs.Store.Documents

set_option autoImplicit false

/-!
Which calls leave a document where it is.
-/

namespace MemoryBank

/-- The call neither takes this document out of the collection nor changes it. -/
def Call.Spares (name : String) (d : Document) : Call → Prop
  | .dropCollection dropped => dropped ≠ name
  | .update target filter _ => target = name → d.satisfies filter = .ok false
  | .deleteOne target filter => target = name → d.satisfies filter = .ok false
  -- a filter that fails on some document would empty the collection
  | .deleteMany target filter => (∀ e : Document, ∃ due, e.satisfies filter = .ok due) ∧
      (target = name → d.satisfies filter = .ok false)
  | _ => True

namespace Database

variable {name : String} {d : Document}

theorem mem_updateFirst {filter : Document} (spared : d.satisfies filter = .ok false)
    (change : Document) {ds : List Document} (member : d ∈ ds) :
    d ∈ (updateFirst filter change ds).2 := by
  induction ds with
  | nil => cases member
  | cons first rest ih =>
    rw [updateFirst]
    cases judged : first.satisfies filter with
    | error cause => exact member
    | ok selected =>
      rcases List.mem_cons.mp member with rfl | member
      · obtain rfl := Except.ok.inj (judged.symm.trans spared)
        exact List.mem_cons_self
      · cases selected with
        | true => exact List.mem_cons_of_mem _ member
        | false => exact List.mem_cons_of_mem _ (ih member)

theorem mem_deleteFirst {filter : Document} (spared : d.satisfies filter = .ok false)
    {ds : List Document} (member : d ∈ ds) : d ∈ (deleteFirst filter ds).2 := by
  induction ds with
  | nil => cases member
  | cons first rest ih =>
    rw [deleteFirst]
    cases judged : first.satisfies filter with
    | error cause => exact member
    | ok selected =>
      rcases List.mem_cons.mp member with rfl | member
      · obtain rfl := Except.ok.inj (judged.symm.trans spared)
        exact List.mem_cons_self
      · cases selected with
        | true => exact member
        | false => exact List.mem_cons_of_mem _ (ih member)

theorem exists_deleteSelected {filter : Document}
    (judged : ∀ e : Document, ∃ due, e.satisfies filter = .ok due) (ds : List Document) :
    ∃ n kept, deleteSelected filter ds = .ok (n, kept) ∧
      ∀ d ∈ ds, d.satisfies filter = .ok false → d ∈ kept := by
  induction ds with
  | nil => exact ⟨0, [], rfl, fun _ none => by cases none⟩
  | cons first rest ih =>
    obtain ⟨n, kept, behind, stays⟩ := ih
    obtain ⟨due, judgedFirst⟩ := judged first
    rw [deleteSelected, judgedFirst, behind]
    cases due with
    | true =>
      refine ⟨n + 1, kept, rfl, List.forall_mem_cons.mpr ⟨fun spared => ?_, stays⟩⟩
      cases judgedFirst.symm.trans spared
    | false =>
      refine ⟨n, first :: kept, rfl, List.forall_mem_cons.mpr ⟨fun _ => List.mem_cons_self, ?_⟩⟩
      exact fun d member spared => List.mem_cons_of_mem _ (stays d member spared)

theorem mem_insertAll (target : String) (ds : List Document) (n : Nat) {db : Database}
    (member : d ∈ db.documents name) : d ∈ (insertAll target n ds db).2.documents name := by
  induction ds generalizing n db with
  | nil => exact member
  | cons first rest ih =>
    have noted : d ∈ (identify first db).2.documents name := by
      unfold identify
      split <;> exact member
    rw [insertAll]
    simp only
    split
    · exact noted
    · refine ih _ ?_
      rw [documents_put]
      split
      · next here => exact List.mem_append_left _ (here ▸ noted)
      · exact noted

theorem mem_put {db : Database} (member : d ∈ db.documents name) {target : String} {c : Collection}
    (kept : target = name → d ∈ c.documents) : d ∈ (db.put target c).documents name := by
  rw [documents_put]
  split
  · next here => exact kept here.symm
  · exact member

theorem mem_documents_of_find? {db : Database} {target : String} {c : Collection}
    (found : db.find? target = some c) (member : d ∈ db.documents name) (here : target = name) :
    d ∈ c.documents :=
  documents_of_find? (here ▸ found) ▸ member

theorem mem_execute {c : Call} (spares : c.Spares name d) {db : Database}
    (member : d ∈ db.documents name) : d ∈ (execute c db).2.documents name := by
  cases c with
  | collectionNames | find _ _ _ | findOne _ _ | aggregate _ _ => exact member
  | createCollection target => exact mem_put member fun here => here ▸ member
  | dropCollection dropped =>
    rw [documents_dropCollection, if_neg (Ne.symm spares)]
    exact member
  | command command =>
    exact ((frame_runCommand command db).documents name).symm ▸ member
  | insert target ds =>
    exact mem_insertAll target ds 0 (mem_put member fun here => here ▸ member)
  | update target filter change =>
    simp only [execute, update]
    cases found : db.find? target with
    | none => exact member
    | some c =>
      exact mem_put member fun here =>
        mem_updateFirst (spares here) change (mem_documents_of_find? found member here)
  | deleteOne target filter =>
    simp only [execute, deleteOne]
    cases found : db.find? target with
    | none => exact member
    | some c =>
      exact mem_put member fun here =>
        mem_deleteFirst (spares here) (mem_documents_of_find? found member here)
  | deleteMany target filter =>
    simp only [execute, deleteMany]
    cases found : db.find? target with
    | none => exact member
    | some c =>
      obtain ⟨n, kept, deleted, stays⟩ := exists_deleteSelected spares.1 c.documents
      simp only [deleted]
      exact mem_put member fun here =>
        stays d (mem_documents_of_find? found member here) (spares.2 here)

theorem mem_perform {c : Call} (spares : c.Spares name d) {db : Database}
    (member : d ∈ db.documents name) : d ∈ (DocumentStore.perform c db).2.documents name := by
  cases online : db.offline with
  | true =>
    rw [perform_of_offline online]
    exact member
  | false =>
    rw [perform_of_online online]
    exact mem_execute spares member

end Database

end MemoryBank
