import MemoryBank.Proofs.Service.Hiding
import MemoryBank.Proofs.Service.Listing

set_option autoImplicit false

/-!
Which memories of a scope a listing shows. It takes the first so many of them, expired ones among
them, and then leaves the expired ones out, so these take the places of live ones further behind.
-/

namespace MemoryBank

namespace Page

variable {α : Type}

/-- To take some elements first and then to choose among them leaves places free. -/
theorem take_filter (p : α → Bool) (n : Nat) (xs : List α) :
    (xs.filter p).take n =
      (xs.take n).filter p ++ ((xs.drop n).filter p).take (n - ((xs.take n).filter p).length) := by
  have short : ((xs.take n).filter p).length ≤ n :=
    (List.length_filter_le ..).trans (List.length_take_le n xs)
  conv_lhs => rw [← List.take_append_drop n xs, List.filter_append, List.take_append,
    List.take_of_length_le short]

theorem length_take_filter_iff (p : α → Bool) (n : Nat) (xs : List α) :
    ((xs.filter p).take n).length = ((xs.take n).filter p).length ↔
      (∀ x ∈ xs.take n, p x = true) ∨ ∀ x ∈ xs.drop n, p x = false := by
  rw [take_filter, List.length_append]
  have all : ((xs.take n).filter p).length = (xs.take n).length ↔ ∀ x ∈ xs.take n, p x = true :=
    List.length_filter_eq_length_iff
  have none : ((xs.drop n).filter p).length = 0 ↔ ∀ x ∈ xs.drop n, p x = false := by
    simp [List.length_eq_zero_iff]
  rw [← all, ← none]
  have bound := List.length_filter_le p (xs.take n)
  have behind := List.length_filter_le p (xs.drop n)
  simp only [List.length_take, List.length_drop] at bound behind ⊢
  omega

theorem take_filter_of_length {p : α → Bool} {n : Nat} {xs : List α}
    (same : ((xs.filter p).take n).length = ((xs.take n).filter p).length) :
    (xs.filter p).take n = (xs.take n).filter p := by
  rw [take_filter, List.length_append, Nat.add_eq_left, List.length_eq_zero_iff] at same
  rw [take_filter, same, List.append_nil]

end Page

namespace Document

/-- The payload meets the conditions of the scope, one for each owner that has a name. -/
def belongs (s : Scope) (d : Document) : Bool :=
  s.owners.all fun (key, owner) => owner.all fun name =>
    name.isEmpty || matchesValue (d.payload.get? key) (.string name)

/-- What is stored does not expire, or later than now. -/
def isLive (now : Int) (d : Document) : Bool := d.expiry?.all fun time => now < time

theorem expiry?_of_read {score : Option Single} {d : Document} {m : StoredMemory}
    (read : StoredMemory.ofDocument score d = .ok m) : d.expiry? = m.payload.expiresAt := by
  obtain ⟨o, lies, value, -, -⟩ := StoredMemory.ofDocument_eq_ok_iff.mp read
  have decoded := (Payload.ofObject_expiry value).1
  simp only [expiry?, lies]
  cases entry : Object.get? o Payload.expiryKey with
  | none =>
    rw [entry] at decoded
    exact Except.ok.inj decoded
  | some v =>
    rw [entry, Option.getD_some] at decoded
    rcases Decode.optional_int64_eq_ok decoded with ⟨rfl, none⟩ | ⟨time, rfl, known, inRange⟩
    · exact none.symm
    · rw [known]
      exact if_pos inRange

theorem isLive_of_read {score : Option Single} {d : Document} {m : StoredMemory}
    (read : StoredMemory.ofDocument score d = .ok m) (now : Int) :
    d.isLive now = !(MemoryItem.ofStored m).isExpired now := by
  obtain ⟨o, -, value, -, -⟩ := StoredMemory.ofDocument_eq_ok_iff.mp read
  rw [MemoryItem.isExpired_ofStored value, isLive, expiry?_of_read read, Payload.isExpired]
  cases m.payload.expiresAt with
  | none => rfl
  | some time => simp [← decide_not]

end Document

namespace Scope

theorem mem_filters_iff {s : Scope} {e : String × Json} :
    e ∈ s.filters.entries ↔ e ∈ s.conditions := by
  constructor
  · intro member
    exact ((NameMap.insertAll_spec s.conditions .empty .nil).2 e member).resolve_left nofun
  · intro written
    refine NameMap.mem_of_lookup (?_ : s.filters.get? e.1 = some e.2)
    rw [get?_filters]
    exact NameMap.lookup_of_mem ((names_conditions s).nodup (by decide)) written

theorem asked_all (s : Scope) (d : Document) : s.asked.all (·.holds d.payload) = d.belongs s := by
  rw [Bool.eq_iff_iff, asked, List.all_map, List.all_eq_true, Document.belongs, List.all_eq_true]
  simp only [mem_filters_iff]
  constructor
  · rintro holds ⟨key, owner⟩ known
    cases owner with
    | none => rfl
    | some name =>
      by_cases named : name = ""
      · simp [named]
      · have matched : matchesValue (d.payload.get? key) (.string name) = true :=
          holds _ (mem_conditions known named)
        simp [matched]
  · intro owned e written
    obtain ⟨⟨key, owner⟩, known, made⟩ := List.mem_filterMap.mp written
    have own := owned _ known
    unfold condition? at made
    split at made
    · next name some =>
      obtain rfl : owner = Option.some name := some
      split at made
      · cases made
      · next named =>
        obtain rfl := Option.some.inj made
        have matched : matchesValue (d.payload.get? key) (.string name) = true := by
          simpa [named] using own
        exact matched
    · cases made

theorem satisfies_filter {s : Scope} {filter : Document}
    (written : s.filters.predicate storedPayloadPath = .ok filter) (d : Document) :
    d.satisfies filter = .ok (d.belongs s) := by
  rw [Place.satisfies_predicate (Place.shows_payload d) (conditions_filters s) written,
    ← asked_all]
  exact Condition.allJudged_of_judged fun c member => (plain_asked s c member).judged d.payload

end Scope

namespace Document

def Readable (d : Document) : Prop := ∃ m, StoredMemory.ofDocument none d = .ok m

/-- The items show these documents, one after another. -/
def ShownBy (ds : List Document) (items : List MemoryItem) : Prop :=
  ∃ ms, ds.mapM (StoredMemory.ofDocument none) = .ok ms ∧ items = ms.map .ofStored

theorem readable_iff {ds : List Document} :
    (∃ ms, ds.mapM (StoredMemory.ofDocument none) = .ok ms) ↔ ∀ d ∈ ds, d.Readable := by
  constructor
  · rintro ⟨ms, read⟩ d member
    obtain ⟨m, -, value⟩ := Fallible.exists_mem_of_mapM read member
    exact ⟨m, value⟩
  · exact Fallible.exists_mapM_eq_ok

theorem ShownBy.length {ds : List Document} {items : List MemoryItem}
    (shown : ShownBy ds items) : items.length = ds.length := by
  obtain ⟨ms, read, rfl⟩ := shown
  rw [List.length_map, Fallible.length_of_mapM read]

theorem ShownBy.unique {ds : List Document} {items items' : List MemoryItem}
    (shown : ShownBy ds items) (shown' : ShownBy ds items') : items = items' := by
  obtain ⟨ms, read, rfl⟩ := shown
  obtain ⟨ms', read', rfl⟩ := shown'
  rw [Except.ok.inj (read.symm.trans read')]

theorem shownBy_dropExpired {ds : List Document} {ms : List StoredMemory}
    (read : ds.mapM (StoredMemory.ofDocument none) = .ok ms) (now : Int) :
    ShownBy (ds.filter (·.isLive now)) (Service.dropExpired now (ms.map .ofStored)) := by
  refine ⟨ms.filter fun m => !(MemoryItem.ofStored m).isExpired now, ?_, List.filter_map⟩
  exact Fallible.mapM_filter read fun d _ m value => isLive_of_read value now

end Document

/-- The memories of a scope, live ones and expired ones. -/
def VectorStore.memories (v : VectorStore) (s : Scope) (w : World Database) : List Document :=
  (w.store.documents v.collection).filter (·.belongs s)

namespace VectorStore

/-- What is shown of a listing are the live ones of the memories that it takes. -/
theorem dropExpired_listed_eq_ok_iff {reachable : Bool} {limit : Nat} {matching : List Document}
    {now : Int} {items : List MemoryItem} :
    (fun ms => Service.dropExpired now (ms.map .ofStored)) <$> listed reachable limit matching =
        .ok items ↔
      (limit = 0 ∨ reachable = true) ∧ (∀ d ∈ matching.take limit, d.Readable) ∧
        Document.ShownBy ((matching.take limit).filter (·.isLive now)) items := by
  rw [listed, ← Document.readable_iff]
  by_cases zero : limit = 0
  · subst zero
    have shown : Document.ShownBy ([] : List Document) [] := ⟨[], rfl, rfl⟩
    simp only [if_true, List.take_zero, List.filter_nil, true_or, true_and]
    constructor
    · intro same
      obtain rfl := Except.ok.inj same
      exact ⟨⟨[], rfl⟩, shown⟩
    · rintro ⟨-, shown'⟩
      rw [shown'.unique shown]
      rfl
  · simp only [zero, if_false, false_or]
    cases reachable with
    | false => simp
    | true =>
      cases read : (matching.take limit).mapM (StoredMemory.ofDocument none) with
      | error cause => simp
      | ok ms =>
        have shown := Document.shownBy_dropExpired read now
        simp only [if_true, Fallible.ok_map, Except.ok.injEq, true_and, exists_eq']
        exact ⟨fun same => same ▸ shown, shown.unique⟩

end VectorStore

namespace Service

theorem run_getAll_memories (v : VectorStore) (embedder : Embedder) (lifetime : Int)
    (coordinator : Coordinator) {scope : Scope} (accepted : scope.validate = .ok ()) (limit : Nat)
    (now : Int) (w : World Database) :
    (Task.run ((direct v embedder lifetime coordinator).getAll now scope limit) w).1 =
      (fun ms => dropExpired now (ms.map .ofStored)) <$>
        VectorStore.listed (!w.store.offline) limit (v.memories scope w) := by
  obtain ⟨filter, written, -, total⟩ := scope.exists_filter accepted
  have same : (Document.passes · filter) = (·.belongs scope) := by
    funext d
    exact Document.passes_of_satisfies (Scope.satisfies_filter written d)
  rw [run_getAll v embedder lifetime coordinator accepted,
    VectorStore.run_list_eq written total, same, VectorStore.memories]

/-- A listing shows the first live memories of the scope, as many as it is asked for, exactly if the
memories that it takes can be read, and either none of these has expired or all behind them have.
Whatever it takes, it shows the live ones of these. -/
theorem getAll_shows_live_iff (v : VectorStore) (embedder : Embedder) (lifetime : Int)
    (coordinator : Coordinator) (scope : Scope) (accepted : scope.validate = .ok ()) (limit : Nat)
    (now : Int) (w : World Database) :
    ((∃ items, (Task.run ((direct v embedder lifetime coordinator).getAll now scope limit) w).1 =
          .ok items ∧
        Document.ShownBy (((v.memories scope w).filter (·.isLive now)).take limit) items) ↔
      (limit = 0 ∨ w.store.offline = false) ∧
        (∀ d ∈ (v.memories scope w).take limit, d.Readable) ∧
          ((∀ d ∈ (v.memories scope w).take limit, d.isLive now = true) ∨
            ∀ d ∈ (v.memories scope w).drop limit, d.isLive now = false)) ∧
    ∀ items, (Task.run ((direct v embedder lifetime coordinator).getAll now scope limit) w).1 =
        .ok items ↔
      (limit = 0 ∨ w.store.offline = false) ∧
        (∀ d ∈ (v.memories scope w).take limit, d.Readable) ∧
          Document.ShownBy (((v.memories scope w).take limit).filter (·.isLive now)) items := by
  have answers (items : List MemoryItem) :
      (Task.run ((direct v embedder lifetime coordinator).getAll now scope limit) w).1 =
          .ok items ↔
        (limit = 0 ∨ w.store.offline = false) ∧
          (∀ d ∈ (v.memories scope w).take limit, d.Readable) ∧
            Document.ShownBy (((v.memories scope w).take limit).filter (·.isLive now)) items := by
    rw [run_getAll_memories v embedder lifetime coordinator accepted,
      VectorStore.dropExpired_listed_eq_ok_iff, Bool.not_eq_true']
  refine ⟨?_, answers⟩
  simp only [answers, ← Page.length_take_filter_iff]
  constructor
  · rintro ⟨items, ⟨reached, readable, shown⟩, page⟩
    exact ⟨reached, readable, page.length.symm.trans shown.length⟩
  · rintro ⟨reached, readable, same⟩
    obtain ⟨ms, read⟩ := Document.readable_iff.mpr readable
    have shown := Document.shownBy_dropExpired read now
    exact ⟨_, ⟨reached, readable, shown⟩, Page.take_filter_of_length same ▸ shown⟩

/-- Two memories, of which the first expires at 110. -/
def fleeting : World Database :=
  Deed.during ⟨⟨"memories", 1, .diskann, 0, 50⟩⟩ 0 (.ofSize 50)
    [.errand (.ofLetters 1) (.add 100 ⟨⟨some "u", none, none⟩, .text "a", .fact, none, some 10⟩),
      .errand (.ofLetters 1) (.add 100 ⟨⟨some "u", none, none⟩, .text "b", .fact, none, none⟩)]
    (.replicate 6 0 ++ .replicate 6 1)

def listing (limit : Nat) : Result (List MemoryItem) :=
  (Task.run ((direct ⟨⟨"memories", 1, .diskann, 0, 50⟩⟩ (.ofLetters 1) 0 (.ofSize 50)).getAll 200
    ⟨some "u", none, none⟩ limit) fleeting).1

/-- The live memories that a listing is to show. -/
def livePage (limit : Nat) : List Document :=
  ((VectorStore.memories ⟨⟨"memories", 1, .diskann, 0, 50⟩⟩ ⟨some "u", none, none⟩ fleeting).filter
    (·.isLive 200)).take limit

theorem getAll_shows_live_of_two :
    (⟨some "u", none, none⟩ : Scope).validate = .ok () ∧
      ∃ items, listing 2 = .ok items ∧ items.map (·.id) = [identifier 2] ∧
        Document.ShownBy (livePage 2) items := by
  have answered : (listing 2).toOption.map (List.map (·.id)) = some [identifier 2] := by
    decide +kernel
  have few : (VectorStore.memories ⟨⟨"memories", 1, .diskann, 0, 50⟩⟩
      ⟨some "u", none, none⟩ fleeting).length ≤ 2 := by decide +kernel
  cases answer : listing 2 with
  | error cause =>
    rw [answer] at answered
    cases answered
  | ok items =>
    rw [answer] at answered
    obtain ⟨shows, takes⟩ := getAll_shows_live_iff ⟨⟨"memories", 1, .diskann, 0, 50⟩⟩
      (.ofLetters 1) 0 (.ofSize 50) ⟨some "u", none, none⟩ rfl 2 200 fleeting
    obtain ⟨reached, readable, -⟩ := (takes items).mp answer
    obtain ⟨items', answer', shown⟩ := shows.mpr
      ⟨reached, readable, .inr (by simp [List.drop_of_length_le few])⟩
    obtain rfl : items = items' := Except.ok.inj (answer.symm.trans answer')
    exact ⟨rfl, items, rfl, Option.some.inj answered, shown⟩

/-- A listing of one memory shows none, as it takes the expired one. -/
theorem getAll_misses_live :
    listing 1 = .ok [] ∧
      ¬∃ items, listing 1 = .ok items ∧ Document.ShownBy (livePage 1) items := by
  have live : (livePage 1).length = 1 := by decide +kernel
  have none : listing 1 = .ok [] := by
    have answered : (listing 1).toOption.map List.isEmpty = some true := by decide +kernel
    cases answer : listing 1 with
    | error cause =>
      rw [answer] at answered
      cases answered
    | ok items =>
      rw [answer] at answered
      rw [List.isEmpty_iff.mp (Option.some.inj answered)]
  refine ⟨none, ?_⟩
  rintro ⟨items, answer, shown⟩
  obtain rfl := Except.ok.inj (none.symm.trans answer)
  cases shown.length.trans live

end Service

end MemoryBank
