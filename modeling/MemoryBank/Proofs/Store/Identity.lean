import Mathlib.Data.List.Nodup
import MemoryBank.Proofs.Store.Changes
import MemoryBank.Proofs.Store.Operations

set_option autoImplicit false

/-!
Every document that operations of an adapter leave in a store has a text for its id, and no two of
one collection have the same.
-/

namespace MemoryBank

namespace Decimal

theorem value_digitsOnto (n : Nat) (rest : List Char) :
    value (digitsOnto n rest) = rest.foldl (fun n c => 10 * n + (c.toNat - 0x30)) n := by
  have place : ∀ d < 10, (digitChar d).toNat - 0x30 = d := by decide
  induction n, rest using digitsOnto.induct with
  | case1 n rest small =>
    rw [digitsOnto, if_pos small, value, List.foldl_cons, place n small]
    simp
  | case2 n rest large ih =>
    rw [digitsOnto, if_neg large, ih, List.foldl_cons, place _ (Nat.mod_lt n (by decide)),
      Nat.div_add_mod]

theorem value_padded (width n : Nat) : value (padded width n) = n := by
  have zeros (k : Nat) : value (List.replicate k '0' ++ digits n) = value (digits n) := by
    induction k with
    | zero => rfl
    | succ k ih => exact ih
  exact (zeros _).trans (value_digitsOnto n [])

end Decimal

theorem identifier_injective {m n : Nat} (same : identifier m = identifier n) : m = n := by
  have tails : Decimal.padded 12 m = Decimal.padded 12 n :=
    List.append_cancel_left (String.ofList_injective same)
  calc
    m = Decimal.value (Decimal.padded 12 m) := (Decimal.value_padded 12 m).symm
    _ = Decimal.value (Decimal.padded 12 n) := congrArg Decimal.value tails
    _ = n := Decimal.value_padded 12 n

theorem isEmpty_identifier (n : Nat) : (identifier n).isEmpty = false := by
  refine Bool.eq_false_iff.mpr fun empty => ?_
  have texts : "01900000-0000-7000-8000-".toList ++ Decimal.padded 12 n = [] :=
    String.ofList_injective ((String.isEmpty_iff.mp empty).trans rfl)
  exact absurd (List.append_eq_nil_iff.mp texts).1 (by decide)

namespace Document

def Named (d : Document) (id : String) : Prop := d.get? idKey = some (.string id)

end Document

/-- All documents have texts for their ids, no two of them the same. -/
structure Identified (ds : List Document) : Prop where
  named : ∀ d ∈ ds, ∃ id, d.Named id
  distinct : (ds.map fun d => d.get? Document.idKey).Nodup

namespace Identified

variable {ds : List Document}

theorem empty : Identified [] := ⟨fun _ none => (nomatch none), .nil⟩

theorem sublist (identified : Identified ds) {kept : List Document} (among : kept.Sublist ds) :
    Identified kept :=
  ⟨fun d member => identified.named d (among.mem member),
    (among.map _).nodup identified.distinct⟩

theorem append (identified : Identified ds) {d : Document} {id : String} (named : d.Named id)
    (new : ∀ e ∈ ds, ¬e.Named id) : Identified (ds ++ [d]) := by
  refine ⟨fun e member => ?_, ?_⟩
  · rcases List.mem_append.mp member with old | last
    · exact identified.named e old
    · exact ⟨id, List.mem_singleton.mp last ▸ named⟩
  · rw [List.map_append, List.nodup_append]
    refine ⟨identified.distinct, List.pairwise_singleton _ _, ?_⟩
    intro value listed last here
    obtain ⟨e, member, rfl⟩ := List.mem_map.mp listed
    rintro rfl
    exact new e member ((List.mem_singleton.mp here).trans named)

theorem of_ids (identified : Identified ds) {ds' : List Document}
    (same : (ds'.map fun d => d.get? Document.idKey) = ds.map fun d => d.get? Document.idKey) :
    Identified ds' := by
  refine ⟨fun d member => ?_, same ▸ identified.distinct⟩
  have listed : d.get? Document.idKey ∈ ds.map fun d => d.get? Document.idKey :=
    same ▸ List.mem_map_of_mem member
  obtain ⟨e, among, value⟩ := List.mem_map.mp listed
  obtain ⟨id, named⟩ := identified.named e among
  exact ⟨id, value.symm.trans named⟩

/-- A document is told by its id. -/
theorem eq_of_named (identified : Identified ds) {d e : Document} (left : d ∈ ds) (right : e ∈ ds)
    {id : String} (first : d.Named id) (second : e.Named id) : d = e :=
  List.inj_on_of_nodup_map identified.distinct left right (Eq.trans first second.symm)

end Identified

namespace Document

theorem Named.id?_eq {d : Document} {id : String} (named : d.Named id) : d.id? = some id := by
  unfold id?
  rw [show d.get? idKey = some (.string id) from named]

/-- A path of its own is needed to reach the id, and the id is no document. -/
theorem Named.setPath {d d' : Document} {id : String} (named : d.Named id) {path : String}
    (other : path ≠ "_id") {v : Json} (set : d.setPath v (Path.ofText path) = .ok d') :
    d'.get? idKey = d.get? idKey := by
  cases parts : Path.ofText path with
  | nil => exact absurd parts (Path.ofText_ne_nil path)
  | cons field rest =>
    rw [parts] at set
    cases rest with
    | nil =>
      obtain rfl := Except.ok.inj set
      refine Object.get?_insert_of_ne d v ?_
      rintro rfl
      exact other (Path.eq_of_ofText parts)
    | cons next rest =>
      have away : field ≠ idKey := by
        rintro rfl
        simp only [Object.setPath, show d.get? idKey = some (.string id) from named] at set
        cases set
      simp only [Object.setPath] at set
      split at set
      · obtain ⟨inner, -, value⟩ := Fallible.bind_eq_ok.mp set
        obtain rfl := Except.ok.inj value
        exact Object.get?_insert_of_ne d _ away
      · obtain ⟨inner, -, value⟩ := Fallible.bind_eq_ok.mp set
        obtain rfl := Except.ok.inj value
        exact Object.get?_insert_of_ne d _ away
      · cases set

theorem Named.setAll {fields : Object} {d : Document} {id : String} (named : d.Named id) :
    (Update.setAll fields d).2.get? idKey = d.get? idKey := by
  induction fields generalizing d with
  | nil => rfl
  | cons e rest ih =>
    obtain ⟨path, v⟩ := e
    rw [Update.setAll]
    split
    · rfl
    · next other =>
      cases set : Object.setPath v d (Path.ofText path) with
      | error cause => rfl
      | ok d' =>
        have same := named.setPath other set
        exact (ih (same.trans named)).trans same

end Document

namespace Database

theorem same_named {e : Document} {id : String} :
    (e.get? Document.idKey == some (.string id)) = true ↔ e.Named id := by
  unfold Document.Named
  cases e.get? Document.idKey with
  | none => simp
  | some v =>
    change v.same (.string id) = true ↔ _
    rw [Option.some.injEq]
    refine ⟨Json.eq_of_same_string, ?_⟩
    rintro rfl
    exact beq_self_eq_true id

/-- All collections are identified. -/
def Identified (db : Database) : Prop := ∀ name, MemoryBank.Identified (db.documents name)

theorem identified_put {db : Database} (identified : db.Identified) {target : String}
    {c : Collection} (own : MemoryBank.Identified c.documents) : (db.put target c).Identified := by
  intro name
  rw [documents_put]
  split
  · exact own
  · exact identified name

theorem identified_insertAll {target : String} {ds : List Document}
    (named : ∀ d ∈ ds, ∃ id, Document.Named d id) (n : Nat) {db : Database}
    (identified : db.Identified) : (insertAll target n ds db).2.Identified := by
  induction ds generalizing n db with
  | nil => exact identified
  | cons d rest ih =>
    rw [List.forall_mem_cons] at named
    obtain ⟨⟨id, own⟩, behind⟩ := named
    have kept : Object.contains d Document.idKey = true := by
      rw [Object.contains, show Object.get? d Document.idKey = _ from own]
      rfl
    rw [insertAll, identify_of_id kept]
    simp only
    split
    · exact identified
    · next new =>
      refine ih behind _ (identified_put identified ?_)
      refine (identified target).append own fun e among taken => new ?_
      rw [show Object.get? d Document.idKey = _ from own]
      exact List.any_eq_true.mpr ⟨e, among, same_named.mpr taken⟩

theorem ids_updateFirst (filter fields : Document) {ds : List Document}
    (identified : MemoryBank.Identified ds) :
    ((updateFirst filter [("$set", .object fields)] ds).2.map fun d => d.get? Document.idKey) =
      ds.map fun d => d.get? Document.idKey := by
  induction ds with
  | nil => rfl
  | cons first rest ih =>
    rw [updateFirst]
    cases first.satisfies filter with
    | error cause => rfl
    | ok selected =>
      cases selected with
      | true =>
        obtain ⟨id, named⟩ := identified.named first List.mem_cons_self
        rw [List.map_cons, List.map_cons, Update.apply_set, named.setAll]
      | false =>
        rw [List.map_cons, List.map_cons, ih (identified.sublist (List.sublist_cons_self ..))]

theorem deleteFirst_sublist (filter : Document) (ds : List Document) :
    (deleteFirst filter ds).2.Sublist ds := by
  induction ds with
  | nil => exact .refl _
  | cons first rest ih =>
    rw [deleteFirst]
    cases first.satisfies filter with
    | error cause => exact .refl _
    | ok selected =>
      cases selected with
      | true => exact List.sublist_cons_self ..
      | false => exact ih.cons_cons first

theorem deleteSelected_sublist {filter : Document} {ds kept : List Document} {n : Nat}
    (deleted : deleteSelected filter ds = .ok (n, kept)) : kept.Sublist ds := by
  induction ds generalizing n kept with
  | nil =>
    obtain ⟨-, rfl⟩ := Prod.mk.inj (Except.ok.inj deleted)
    exact .refl _
  | cons first rest ih =>
    obtain ⟨selected, -, deleted⟩ := Fallible.bind_eq_ok.mp deleted
    obtain ⟨⟨m, others⟩, behind, deleted⟩ := Fallible.bind_eq_ok.mp deleted
    have among := ih behind
    cases selected with
    | true =>
      obtain ⟨-, rfl⟩ := Prod.mk.inj (Except.ok.inj deleted)
      exact among.cons first
    | false =>
      obtain ⟨-, rfl⟩ := Prod.mk.inj (Except.ok.inj deleted)
      exact among.cons_cons first

end Database

/-- A call that an adapter may make: what it puts in has texts for ids, and what it changes it
sets. -/
def Call.KeepsIds : Call → Prop
  | .insert _ ds => ∀ d ∈ ds, ∃ id, Document.Named d id
  | .update _ _ change => ∃ fields, change = [("$set", .object fields)]
  | _ => True

namespace Database

theorem identified_execute {c : Call} (keeps : c.KeepsIds) {db : Database}
    (identified : db.Identified) : (execute c db).2.Identified := by
  cases c with
  | collectionNames | find _ _ _ | findOne _ _ | aggregate _ _ => exact identified
  | createCollection target => exact identified_put identified (identified target)
  | dropCollection dropped =>
    intro name
    rw [documents_dropCollection]
    split
    · exact .empty
    · exact identified name
  | command command =>
    intro name
    exact ((frame_runCommand command db).documents name).symm ▸ identified name
  | insert target ds =>
    exact identified_insertAll keeps 0 (identified_put identified (identified target))
  | update target filter change =>
    obtain ⟨fields, rfl⟩ := keeps
    simp only [execute, update]
    cases found : db.find? target with
    | none => exact identified
    | some c =>
      have own := documents_of_find? found ▸ identified target
      exact identified_put identified (own.of_ids (ids_updateFirst filter fields own))
  | deleteOne target filter =>
    simp only [execute, deleteOne]
    cases found : db.find? target with
    | none => exact identified
    | some c =>
      have own := documents_of_find? found ▸ identified target
      exact identified_put identified (own.sublist (deleteFirst_sublist filter c.documents))
  | deleteMany target filter =>
    simp only [execute, deleteMany]
    cases found : db.find? target with
    | none => exact identified
    | some c =>
      have own := documents_of_find? found ▸ identified target
      simp only
      cases deleted : deleteSelected filter c.documents with
      | error cause => exact identified_put identified .empty
      | ok r => exact identified_put identified (own.sublist (deleteSelected_sublist deleted))

theorem identified_perform {c : Call} (keeps : c.KeepsIds) {db : Database}
    (identified : db.Identified) : (DocumentStore.perform c db).2.Identified := by
  cases online : db.offline with
  | true =>
    rw [perform_of_offline online]
    exact identified
  | false =>
    rw [perform_of_online online]
    exact identified_execute keeps identified

end Database

namespace Operation

theorem keepsIds {v : VectorStore} {o : Operation} {c : Call} (calls : o.Calls v c) :
    c.KeepsIds := by
  rcases calls with makes | ⟨_, -, rfl⟩ | ⟨_, rfl⟩ | ⟨_, _, rfl⟩
  · cases o with
    | ensureIndex | deleteCollection _ => cases makes
    | insert ids vectors payloads =>
      obtain ⟨ds, made, rfl⟩ := makes
      intro d member
      rw [VectorStore.documents_eq_ok made] at member
      obtain ⟨r, -, rfl⟩ := List.mem_map.mp member
      exact ⟨r.1, rfl⟩
    | search _ _ _ | list _ _ => obtain ⟨_, rfl⟩ := makes; trivial
    | update _ _ => obtain ⟨fields, rfl⟩ := makes; exact ⟨fields, rfl⟩
    | sweep _ => rcases makes with rfl | rfl <;> trivial
    | _ => cases makes; trivial
  · trivial
  · trivial
  · trivial

theorem identified_task (v : VectorStore) (o : Operation) :
    (o.task v).Preserves fun w => w.store.Identified := by
  refine o.task_preserves v (fun c calls w identified => ?_) (fun _ _ _ identified _ => identified)
    fun _ _ _ identified => identified
  exact Database.identified_perform (keepsIds calls) identified

end Operation

namespace VectorStore

/-- The world after these operations of an adapter on an empty store, one after another. -/
def after (v : VectorStore) (ops : List Operation) : World Database :=
  ops.foldl (fun w o => (Task.run (o.task v) w).2) ⟨.empty, .empty⟩

theorem identified_after (v : VectorStore) (ops : List Operation) :
    (v.after ops).store.Identified := by
  have run (w : World Database) (identified : w.store.Identified) :
      (ops.foldl (fun w o => (Task.run (o.task v) w).2) w).store.Identified := by
    induction ops generalizing w with
    | nil => exact identified
    | cons o rest ih => exact ih _ (o.identified_task v w identified)
  exact run _ fun _ => .empty

end VectorStore

end MemoryBank
