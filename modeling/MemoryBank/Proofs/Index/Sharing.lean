import MemoryBank.Proofs.Fleet
import MemoryBank.Proofs.Index.Standing

set_option autoImplicit false

/-!
Adapters that share a store. The first that sees to the index of a collection makes it, whatever
kind it is configured for; the others find it there and put up with it.
-/

namespace MemoryBank

namespace Database

def asked (db : Database) (name : String) : Nat :=
  -- How often an index of the collection has been asked for.
  db.log.count ⟨createIndexesCommand, name⟩

theorem asked_arrive {c : Call} {name : String}
    (other : c.verb = createIndexesCommand → c.target ≠ name) (db : Database) :
    (arrive c db).asked name = db.asked name := by
  have differs : (⟨c.verb, c.target⟩ : LogEntry) ≠ ⟨createIndexesCommand, name⟩ := by
    intro same
    obtain ⟨verb, target⟩ := LogEntry.mk.inj same
    exact other verb target
  rw [asked, arrive, List.count_append, List.count_singleton, beq_eq_false_iff_ne.mpr differs]
  rfl

theorem asked_perform {c : Call} {name : String}
    (other : c.verb = createIndexesCommand → c.target ≠ name) (db : Database) :
    (DocumentStore.perform c db).2.asked name = db.asked name := by
  rw [asked, log_perform]
  exact asked_arrive other db

theorem indexes_drop {other name : String} (differs : other ≠ name) (db : Database) :
    (DocumentStore.perform (.dropCollection other) db).2.indexes name = db.indexes name := by
  have kept : (Call.dropCollection other).drops name = false := beq_eq_false_iff_ne.mpr differs
  obtain ⟨added, grown, asks⟩ := grown_perform (.dropCollection other) db kept
  obtain rfl : added = [] := List.eq_nil_iff_forall_not_mem.mpr fun spec member => by
    obtain ⟨_, _, _, same, -⟩ := asks spec member
    cases same
  rw [grown, List.append_nil]

theorem indexes_createCommand {other name : String} (differs : other ≠ name) (d : IndexDescriptor)
    (db : Database) : (DocumentStore.perform (.command (d.createCommand other)) db).2.indexes name =
      db.indexes name := by
  cases online : db.offline with
  | true =>
    rw [perform_of_offline online]
    rfl
  | false =>
    rw [perform_of_online online]
    change (createIndexes (d.createCommand other) (arrive _ db)).2.indexes name = _
    unfold createIndexes
    split
    · rfl
    · next target specs requested =>
      obtain ⟨rfl, -⟩ := requestedSpecs_create requested
      rw [indexes_put, if_neg (Ne.symm differs)]
      rfl

end Database

/-- Nothing has happened to a collection: it has the same indexes, the verdict on it is the same,
and no index of it has been asked for. -/
structure World.Same (name : String) (w w' : World Database) : Prop where
  online : w'.store.offline = w.store.offline
  indexes : w'.store.indexes name = w.store.indexes name
  verdict : w'.verdicts.get? name = w.verdicts.get? name
  asked : w'.store.asked name = w.store.asked name

namespace World.Same

variable {name : String} {w w' w'' : World Database}

theorem refl (w : World Database) : w.Same name w := ⟨rfl, rfl, rfl, rfl⟩

theorem trans (first : w.Same name w') (next : w'.Same name w'') : w.Same name w'' where
  online := next.online.trans first.online
  indexes := next.indexes.trans first.indexes
  verdict := next.verdict.trans first.verdict
  asked := next.asked.trans first.asked

end World.Same

namespace Task

variable {α β : Type} {name other : String}

def Aside (name : String) (t : Task α) : Prop :=
  ∀ w : World Database, w.Same name (run t w).2

theorem aside_call {c : Call} (indexes : ∀ db : Database,
      (DocumentStore.perform c db).2.indexes name = db.indexes name)
    (other : c.verb = createIndexesCommand → c.target ≠ name) : (call c).Aside name := fun w =>
  ⟨Database.perform_offline c w.store, indexes w.store, rfl, Database.asked_perform other w.store⟩

theorem aside_remember (differs : other ≠ name) (status : IndexStatus) :
    (remember other status).Aside name := by
  intro w
  rw [run_remember]
  cases w.verdicts.get? other with
  | some standing => exact .refl w
  | none => exact ⟨rfl, rfl, by simp [Ne.symm differs], rfl⟩

theorem aside_forget (differs : other ≠ name) : (forget other).Aside name := by
  intro w
  refine ⟨rfl, rfl, ?_, rfl⟩
  exact (NameMap.get?_erase ..).trans (if_neg (Ne.symm differs))

theorem Aside.bind {t : Task α} {f : α → Task β} (first : t.Aside name)
    (behind : ∀ a, (f a).Aside name) : (t >>= f).Aside name :=
  run_bind_of_trans .trans first behind

theorem Aside.preserves {t : Task α} (aside : t.Aside name) {I : World Database → Prop}
    (same : ∀ {w w'}, w.Same name w' → I w → I w') : t.Preserves I :=
  fun w holds => same (aside w) holds

end Task

namespace Upkeep

variable {name other : String}

theorem aside_inspect (name other : String) : (inspect other).Aside name := by
  have called : (Task.call (.command (Document.command listIndexesCommand other))).Aside name := by
    refine Task.aside_call (fun db => ?_) fun makes => ?_
    · rw [Database.indexes_eq, Database.catalogue?_perform_of_plain (by rfl), Database.indexes_eq]
    · rw [Call.verb_command] at makes
      exact absurd makes (by decide)
  intro w
  rw [run_inspect]
  exact called w

theorem same_looked {w : World Database} (online : w.store.offline = false) (name other : String) :
    w.Same name (w.looked other) := by
  have inspected := aside_inspect name other w
  rw [run_inspect_online online] at inspected
  exact inspected

theorem aside_ensure (differs : other ≠ name) (d : IndexDescriptor) :
    (ensure other d).Aside name := by
  intro w
  have same {w' w'' : World Database} (next : w'.Same name w'') (first : w.Same name w') :
      w.Same name w'' := first.trans next
  apply preserves_ensure ((aside_inspect name other).preserves same) ?_ ?_ w (.refl w)
  · have called : (Task.call (.command (d.createCommand other))).Aside name :=
      Task.aside_call (Database.indexes_createCommand differs d) fun _ => differs
    exact called.preserves same
  · exact fun status => (Task.aside_remember differs status).preserves same

end Upkeep

namespace Operation

variable {v : VectorStore} {o : Operation} {name : String}

/-- What an operation that does not drop a collection can do to it is to see to its index. -/
theorem preserves_of_ensures {I : World Database → Prop}
    (same : ∀ {w w'}, w.Same name w' → I w → I w') (kept : ¬o.Drops v name)
    (ensures : ∀ n, o.Ensures v name n →
      (Upkeep.ensure name (v.descriptor name n)).Preserves I) : (o.task v).Preserves I := by
  refine o.task_of_parts (Task.closed_preserves I) v ?_ ?_ ?_ ?_
  · exact fun other => (Upkeep.aside_inspect name other).preserves same
  · intro other n sees
    by_cases here : other = name
    · exact here ▸ ensures n (here ▸ sees)
    · exact (Upkeep.aside_ensure here _).preserves same
  · intro other drops
    have differs : other ≠ name := fun here => kept (here ▸ drops)
    have dropped : (Task.call (.dropCollection other)).Aside name :=
      Task.aside_call (Database.indexes_drop differs) fun makes =>
        absurd makes (show "drop" ≠ "createIndexes" by decide)
    exact (dropped.bind fun _ => Task.aside_forget differs).preserves same
  · intro c makes
    have called : (Task.call c).Aside name :=
      Task.aside_call (fun db => indexes_perform_of_makes makes db name) fun creates =>
        absurd creates (verb_of_makes makes)
    exact called.preserves same

end Operation

/-- What the verdict is if an index is there when an adapter first sees to it. -/
def IndexStatus.beside (configured : IndexKind) (d : IndexDescriptor) : IndexStatus where
  configured := configured
  verification := if configured = d.kind then .matched else .mismatch d.kind.storeName
  effective := d.kind
  dimensions := some d.dimensions

theorem IndexStatus.judge_eq_beside (configured : IndexKind) (d : IndexDescriptor) :
    judge configured ⟨d.name, d.kind.storeName, some d.dimensions, some d.metric.storeName⟩ =
      beside configured d := by
  simp only [judge, beside, IndexKind.ofStoreName?_storeName, Option.some.injEq,
    Option.getD_some]
  by_cases same : d.kind = configured
  · rw [if_pos same, if_pos same.symm, same]
  · rw [if_neg same, if_neg (Ne.symm same)]

/-- The collection has these indexes, and indexes of it have been asked for so often. -/
structure Database.Lists (db : Database) (name : String) (specs : List Document) (times : Nat) :
    Prop where
  online : db.offline = false
  indexes : db.indexes name = specs
  asked : db.asked name = times

theorem Database.Lists.same {name : String} {specs : List Document} {times : Nat}
    {w w' : World Database} (lists : w.store.Lists name specs times) (same : w.Same name w') :
    w'.store.Lists name specs times :=
  ⟨same.online.trans lists.online, same.indexes.trans lists.indexes,
    same.asked.trans lists.asked⟩

namespace Upkeep

variable {w : World Database} {name : String} {times : Nat}

theorem ensure_first {d : IndexDescriptor} (lists : w.store.Lists name [] times)
    (unknown : w.verdicts.get? name = none) (named : name.isEmpty = false)
    (valid : IndexSpec.validate d.spec = .ok ()) :
    (Task.run (ensure name d) w).2.store.Lists name [d.spec] (times + 1) ∧
      (Task.run (ensure name d) w).2.verdicts.get? name = some (.created d) := by
  have unseen : w.store.reported name = none := by
    rw [Database.reported, lists.indexes]
    rfl
  obtain ⟨log, ensured⟩ := run_ensure_bare lists.online unknown lists.indexes d
  obtain ⟨passed, exchanged⟩ := exchanges_ensure_unseen lists.online unknown unseen named d
  have asked : (Task.run (ensure name d) w).2.store.asked name = times + 1 := by
    have grown := Program.log_run (ExceptT.run (ensure name d)) w
    rw [← Task.exchanges, exchanged] at grown
    change _ = w.store.log ++ [⟨listIndexesCommand, name⟩, ⟨createIndexesCommand, name⟩] at grown
    rw [← lists.asked, Database.asked, Task.run, grown, List.count_append]
    simp [Database.asked, listIndexesCommand, createIndexesCommand]
  rw [readied, named, valid] at ensured
  refine ⟨⟨?_, ?_, asked⟩, ?_⟩
  · rw [ensured]
    exact lists.online
  · rw [ensured]
    exact (Database.indexes_put _ _ _ _).trans (if_pos rfl)
  · rw [ensured]
    simp

theorem ensure_later {d e : IndexDescriptor} (lists : w.store.Lists name [d.spec] times)
    (unknown : w.verdicts.get? name = none) (named : name.isEmpty = false)
    (word : d.dimensions < pow2 32) :
    Task.run (ensure name e) w = (.ok (.beside e.kind d),
      { w.looked name with verdicts := w.verdicts.insert name (.beside e.kind d) }) := by
  have seen : w.store.reported name =
      some ⟨d.name, d.kind.storeName, some d.dimensions, some d.metric.storeName⟩ := by
    rw [Database.reported, lists.indexes, List.findSome?_singleton,
      IndexDescriptor.ofSpec?_spec word]
  rw [run_ensure_seen lists.online named unknown seen, IndexStatus.judge_eq_beside]
  rfl

theorem ensure_unnamed {d : IndexDescriptor} (online : w.store.offline = false)
    (unknown : w.verdicts.get? name = none) (unnamed : name.isEmpty = true) :
    w.Same name (Task.run (ensure name d) w).2 := by
  rw [run_ensure_of_none unknown, Task.run_bind, run_inspect_online online, unnamed]
  exact same_looked online name name

end Upkeep

namespace Operation

variable {v : VectorStore} {o : Operation} {name : String} {times : Nat}

/-- On a collection that has its index, an operation can only record that it is there. -/
theorem preserves_listed {d : IndexDescriptor} (named : name.isEmpty = false)
    (word : d.dimensions < pow2 32) (kept : ¬o.Drops v name) {P : Option IndexStatus → Prop}
    (records : P none → P (some (.beside v.settings.indexKind d))) :
    (o.task v).Preserves fun w =>
      w.store.Lists name [d.spec] times ∧ P (w.verdicts.get? name) := by
  refine preserves_of_ensures (fun same holds => ⟨holds.1.same same, same.verdict ▸ holds.2⟩) kept
    fun n _ w ⟨lists, holds⟩ => ?_
  cases known : w.verdicts.get? name with
  | some status =>
    rw [VectorStore.run_ensure_of_standing known]
    exact ⟨lists, holds⟩
  | none =>
    have looked := lists.same (Upkeep.same_looked lists.online name name)
    rw [Upkeep.ensure_later lists known named word, VectorStore.descriptor,
      IndexDescriptor.kind_forCollection]
    exact ⟨looked, by simpa using records (known ▸ holds)⟩

/-- On a collection without indexes, an operation leaves it at that or makes one. -/
theorem preserves_unlisted (positive : 0 < v.settings.dimensions)
    (word : v.settings.dimensions < pow2 32) (fits : o.Fits) (kept : ¬o.Drops v name) :
    (o.task v).Preserves fun w =>
      w.store.Lists name [] times ∧ w.verdicts.get? name = none ∨
        ∃ n, name.isEmpty = false ∧ n < pow2 32 ∧
          w.store.Lists name [(v.descriptor name n).spec] (times + 1) ∧
          w.verdicts.get? name = some (.created (v.descriptor name n)) := by
  refine preserves_of_ensures (fun same holds => ?_) kept fun n ensures w holds => ?_
  · rcases holds with ⟨lists, unknown⟩ | ⟨n, named, word, lists, known⟩
    · exact .inl ⟨lists.same same, same.verdict.trans unknown⟩
    · exact .inr ⟨n, named, word, lists.same same, same.verdict.trans known⟩
  · obtain ⟨positive, word⟩ := fits.ensures positive word ensures
    rcases holds with ⟨lists, unknown⟩ | ⟨m, holds⟩
    · cases named : name.isEmpty with
      | true =>
        have same := Upkeep.ensure_unnamed (d := v.descriptor name n) lists.online unknown named
        exact .inl ⟨lists.same same, same.verdict.trans unknown⟩
      | false =>
        exact .inr ⟨n, rfl, word, Upkeep.ensure_first lists unknown named
          (v.validate_descriptor name positive word)⟩
    · rw [VectorStore.run_ensure_of_standing holds.2.2.2]
      exact .inr ⟨m, holds⟩

end Operation

namespace Fleet

variable {adapters : Nat → VectorStore} {name : String} {times : Nat} {f : Fleet}

/-- The collection has no index, and no adapter has a verdict on it. -/
structure Untouched (f : Fleet) (name : String) (times : Nat) : Prop where
  lists : f.store.Lists name [] times
  unknown : ∀ n, (f.verdicts n).get? name = none

/-- One adapter has made the index of the collection, and what others have recorded of it is that
it is there. -/
structure Settled (adapters : Nat → VectorStore) (f : Fleet) (name : String) (times n : Nat)
    (d : IndexDescriptor) : Prop where
  named : name.isEmpty = false
  word : d.dimensions < pow2 32
  lists : f.store.Lists name [d.spec] (times + 1)
  own : (f.verdicts n).get? name = some (.created d)
  others : ∀ m, m ≠ n → ∀ status, (f.verdicts m).get? name = some status →
    status = .beside (adapters m).settings.indexKind d

theorem Settled.step {n : Nat} {d : IndexDescriptor} (settled : Settled adapters f name times n d)
    {m : Nat} {o : Operation} (kept : ¬o.Drops (adapters m) name) :
    Settled adapters (f.put m (Task.run (o.task (adapters m)) (f.world m)).2) name times n d := by
  by_cases here : m = n
  · subst here
    obtain ⟨lists, own⟩ := Operation.preserves_listed settled.named settled.word kept
      (P := (· = some (.created d))) nofun (f.world m) ⟨settled.lists, settled.own⟩
    refine ⟨settled.named, settled.word, lists, by simpa [put] using own, fun k other => ?_⟩
    simpa [put, other] using settled.others k other
  · obtain ⟨lists, recorded⟩ := Operation.preserves_listed settled.named settled.word kept
      (P := fun known => ∀ status, known = some status →
        status = .beside (adapters m).settings.indexKind d)
      (fun _ status known => (Option.some.inj known).symm) (f.world m)
      ⟨settled.lists, settled.others m here⟩
    refine ⟨settled.named, settled.word, lists, by simpa [put, Ne.symm here] using settled.own,
      fun k other => ?_⟩
    by_cases turn : k = m
    · subst turn
      simpa [put] using recorded
    · simpa [put, turn] using settled.others k other

theorem Settled.run {n : Nat} {d : IndexDescriptor} {ops : List (Nat × Operation)}
    (kept : ∀ o ∈ ops, ¬o.2.Drops (adapters o.1) name)
    (settled : Settled adapters f name times n d) :
    Settled adapters (run adapters ops f) name times n d := by
  induction ops generalizing f with
  | nil => exact settled
  | cons o rest ih =>
    rw [List.forall_mem_cons] at kept
    exact ih kept.2 (settled.step kept.1)

theorem Untouched.step (untouched : f.Untouched name times) {n : Nat} {o : Operation}
    (positive : 0 < (adapters n).settings.dimensions)
    (word : (adapters n).settings.dimensions < pow2 32) (fits : o.Fits)
    (kept : ¬o.Drops (adapters n) name) :
    (f.put n (Task.run (o.task (adapters n)) (f.world n)).2).Untouched name times ∨
      ∃ dimensions, Settled adapters (f.put n (Task.run (o.task (adapters n)) (f.world n)).2) name
        times n ((adapters n).descriptor name dimensions) := by
  rcases Operation.preserves_unlisted positive word fits kept (f.world n)
    (.inl ⟨untouched.lists, untouched.unknown n⟩) with
    ⟨lists, unknown⟩ | ⟨dimensions, named, word, lists, own⟩
  · refine .inl ⟨lists, fun m => ?_⟩
    by_cases turn : m = n
    · simpa [put, turn] using unknown
    · simpa [put, turn] using untouched.unknown m
  · refine .inr ⟨dimensions, named, word, lists, by simpa [put] using own, fun m other => ?_⟩
    simp [put, other, untouched.unknown m]

theorem Untouched.run {ops : List (Nat × Operation)}
    (sized : ∀ n, 0 < (adapters n).settings.dimensions ∧
      (adapters n).settings.dimensions < pow2 32)
    (kept : ∀ o ∈ ops, o.2.Fits ∧ ¬o.2.Drops (adapters o.1) name)
    (untouched : f.Untouched name times) :
    (run adapters ops f).Untouched name times ∨ ∃ n dimensions,
      Settled adapters (run adapters ops f) name times n
        ((adapters n).descriptor name dimensions) := by
  induction ops generalizing f with
  | nil => exact .inl untouched
  | cons o rest ih =>
    rw [List.forall_mem_cons] at kept
    rcases untouched.step (sized o.1).1 (sized o.1).2 kept.1.1 kept.1.2 with
      still | ⟨dimensions, settled⟩
    · exact ih kept.2 still
    · have after := settled.run fun p member => (kept.2 p member).2
      exact .inr ⟨o.1, dimensions, after⟩

theorem Settled.run_ensureIndex {n m : Nat} {d : IndexDescriptor}
    (settled : Settled adapters f name times n d) (own : (adapters m).collection = name) :
    ∃ w, Task.run (adapters m).ensureIndex (f.world m) =
      (.ok (if m = n then .created d else .beside (adapters m).settings.indexKind d), w) := by
  subst own
  unfold VectorStore.ensureIndex
  by_cases here : m = n
  · subst here
    rw [if_pos rfl]
    exact ⟨_, VectorStore.run_ensure_of_standing (w := f.world m) settled.own _⟩
  · rw [if_neg here]
    cases known : (f.verdicts m).get? (adapters m).collection with
    | some status =>
      obtain rfl := settled.others m here status known
      exact ⟨_, VectorStore.run_ensure_of_standing (w := f.world m) known _⟩
    | none =>
      have ensured := Upkeep.ensure_later (w := f.world m)
        (e := (adapters m).descriptor (adapters m).collection (adapters m).settings.dimensions)
        settled.lists known settled.named settled.word
      rw [VectorStore.descriptor, IndexDescriptor.kind_forCollection] at ensured
      exact ⟨_, ensured⟩

/-- Adapters of any kinds and dimensions come upon a collection that is not there, and none of them
drops it. The first operation that sees to its index makes it, in the kind its adapter is configured
for; from then on the indexes stay what they are and none is asked for again, and every other
adapter records and reports that index, as a match or a mismatch with its own kind. -/
theorem index_made_once (adapters : Nat → VectorStore) (name : String) (f : Fleet)
    (earlier later : List (Nat × Operation)) (n : Nat) (o : Operation)
    (sized : ∀ n, 0 < (adapters n).settings.dimensions ∧
      (adapters n).settings.dimensions < pow2 32)
    (online : f.store.offline = false) (missing : f.store.find? name = none)
    (fresh : ∀ n, (f.verdicts n).get? name = none)
    (kept : ∀ p ∈ earlier ++ (n, o) :: later, p.2.Fits ∧ ¬p.2.Drops (adapters p.1) name)
    (untouched : ∀ m, ((run adapters earlier f).verdicts m).get? name = none)
    (touched : (((run adapters (earlier ++ [(n, o)]) f).verdicts n).get? name).isSome = true) :
    (run adapters earlier f).store.indexes name = [] ∧
      (run adapters earlier f).store.asked name = f.store.asked name ∧
      ∃ d : IndexDescriptor, (∃ dimensions, d = (adapters n).descriptor name dimensions) ∧
        (run adapters (earlier ++ [(n, o)]) f).store.indexes name = [d.spec] ∧
        (run adapters (earlier ++ (n, o) :: later) f).store.indexes name = [d.spec] ∧
        (run adapters (earlier ++ (n, o) :: later) f).store.asked name = f.store.asked name + 1 ∧
        ∀ m, (∀ status, ((run adapters (earlier ++ (n, o) :: later) f).verdicts m).get? name =
            some status → status = if m = n then .created d
              else .beside (adapters m).settings.indexKind d) ∧
          ((adapters m).collection = name → ∃ w, Task.run (adapters m).ensureIndex
            ((run adapters (earlier ++ (n, o) :: later) f).world m) =
              (.ok (if m = n then .created d
                else .beside (adapters m).settings.indexKind d), w)) := by
  rw [List.forall_mem_append, List.forall_mem_cons] at kept
  obtain ⟨keptEarlier, ⟨fits, keptNow⟩, keptLater⟩ := kept
  have start : f.Untouched name (f.store.asked name) := by
    refine ⟨⟨online, ?_, rfl⟩, fresh⟩
    rw [Database.indexes, Database.opened, missing]
    rfl
  have before : (run adapters earlier f).Untouched name (f.store.asked name) := by
    rcases start.run sized keptEarlier with still | ⟨m, dimensions, settled⟩
    · exact still
    · cases settled.own.symm.trans (untouched m)
  rw [run_append] at touched ⊢
  rw [run_append]
  refine ⟨before.lists.indexes, before.lists.asked, ?_⟩
  rcases before.step (sized n).1 (sized n).2 fits keptNow with still | ⟨dimensions, settled⟩
  · have unknown := still.unknown n
    exact absurd touched (by simpa [run] using unknown)
  · have after := settled.run fun p member => (keptLater p member).2
    refine ⟨_, ⟨dimensions, rfl⟩, settled.lists.indexes, after.lists.indexes, after.lists.asked,
      fun m => ⟨fun status known => ?_, after.run_ensureIndex⟩⟩
    split
    · next here =>
      subst here
      exact Option.some.inj (known.symm.trans after.own)
    · next other => exact after.others m other status known

def mixed (n : Nat) : VectorStore := ⟨⟨"memories", 1, if n = 0 then .diskann else .hnsw, 0, 50⟩⟩

/-- One adapter makes the index, another makes a search and a third asks for other dimensions. -/
def mixedRun : Fleet :=
  run mixed ([] ++ (0, .ensureIndex) ::
    [(1, .search [.ofInt 1] 1 .empty), (2, .createCollection "memories" 2)]) start

theorem mixed_index_made_once :
    mixedRun.store.asked "memories" = 1 ∧ mixedRun.store.indexes "memories" =
        [(IndexDescriptor.forCollection "memories" .diskann 1).spec] ∧
      ∃ w, Task.run (mixed 2).ensureIndex (mixedRun.world 2) =
        (.ok ⟨.hnsw, .mismatch "vector-diskann", .diskann, some 1⟩, w) := by
  have touched : (((run mixed ([] ++ [(0, .ensureIndex)]) start).verdicts 0).get?
      "memories").isSome = true := by decide +kernel
  have known : (mixedRun.verdicts 0).get? "memories" =
      some ⟨.diskann, .created, .diskann, some 1⟩ := by decide +kernel
  obtain ⟨-, -, d, ⟨dimensions, rfl⟩, -, indexes, asked, reports⟩ :=
    index_made_once mixed "memories" start [] [(1, .search [.ofInt 1] 1 .empty),
      (2, .createCollection "memories" 2)] 0 .ensureIndex
      (fun _ => ⟨Nat.one_pos, by simp [mixed, pow2]⟩) rfl rfl (fun _ => rfl)
      (by simp [Operation.Fits, Operation.Drops, pow2]) (fun _ => rfl) touched
  have own := congrArg (·.dimensions) ((reports 0).1 _ known)
  obtain rfl : 1 = dimensions := Option.some.inj own
  obtain ⟨w, reported⟩ := (reports 2).2 rfl
  exact ⟨asked, indexes, w, reported⟩

end Fleet

end MemoryBank
