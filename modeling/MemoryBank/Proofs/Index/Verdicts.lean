import MemoryBank.Proofs.Program.Schedules
import MemoryBank.Proofs.Store.Operations

set_option autoImplicit false

/-!
Whether the verdict that is remembered on a collection is right once several operations of an
adapter have been carried out, one step of one and then one of another.
-/

namespace MemoryBank

namespace Task

variable {α β : Type} {collection : String}

def passing (ends : α → IndexKind → Prop) : Result α → IndexKind → Prop
  | .ok a => ends a
  | .error _ => fun _ => False

def Heeds (collection : String) (shown : IndexKind → Prop) (t : Task α)
    (ends : α → IndexKind → Prop) : Prop :=
  Program.Heeds collection (passing ends) shown (ExceptT.run t)

/-- A task that heeds a collection whatever is shown before, and whose end shows nothing. -/
def Careful (collection : String) (t : Task α) : Prop :=
  t.Heeds collection (fun _ => False) fun _ _ => False

theorem Heeds.bind {shown : IndexKind → Prop} {t : Task α} {f : α → Task β}
    {middle : α → IndexKind → Prop} {ends : β → IndexKind → Prop}
    (first : t.Heeds collection shown middle)
    (behind : ∀ a, (f a).Heeds collection (middle a) ends) :
    (t >>= f).Heeds collection shown ends := by
  refine Program.Heeds.bind first fun r => ?_
  cases r with
  | error cause => exact fun _ none => none
  | ok a => exact behind a

theorem Heeds.careful {t : Task α} {ends : α → IndexKind → Prop}
    (heeds : t.Heeds collection (fun _ => False) ends) : t.Careful collection := by
  have blind : Program.Heeds collection (passing fun _ _ => False) (fun _ => False)
      ((ExceptT.run t).bind .done) := by
    refine Program.Heeds.bind heeds fun r kind none => ?_
    cases r <;> exact none.elim
  rwa [Program.bind_done] at blind

theorem Careful.bind {t : Task α} {f : α → Task β} (first : t.Careful collection)
    (behind : ∀ a, (f a).Careful collection) : (t >>= f).Careful collection :=
  Heeds.bind first behind

theorem heeds_pure {shown : IndexKind → Prop} (a : α) {ends : α → IndexKind → Prop}
    (given : ∀ kind, ends a kind → shown kind) : (pure a : Task α).Heeds collection shown ends :=
  given

theorem careful_ofResult (r : Result α) : (ofResult r).Careful collection := by
  cases r <;> exact fun _ none => none

theorem closed_careful (collection : String) :
    Task.Closed fun _ t => t.Careful collection :=
  ⟨careful_ofResult, Careful.bind⟩

theorem heeds_call {c : Call} (kept : c.drops collection = false) {shown : IndexKind → Prop}
    {ends : c.Reply → IndexKind → Prop}
    (given : ∀ a kind, ends a kind → (Step.call c).Shows collection (.ok a) kind) :
    (call c).Heeds collection shown ends := by
  refine ⟨trivial, fun r => ⟨?_, fun drops => ?_⟩⟩
  · cases r with
    | error cause => exact fun _ none => none.elim
    | ok a => exact given a
  · rw [drops.1] at kept
    cases kept

theorem careful_call {c : Call} (kept : c.drops collection = false) :
    (call c).Careful collection :=
  heeds_call kept fun _ _ none => none.elim

theorem careful_verdict (name : String) : (verdict name).Careful collection :=
  ⟨trivial, fun _ => ⟨fun _ none => none, nofun⟩⟩

theorem heeds_remember {shown : IndexKind → Prop} {name : String} {status : IndexStatus}
    (given : name = collection → shown status.effective) :
    (remember name status).Heeds collection shown fun _ _ => False :=
  ⟨given, fun _ => ⟨fun _ none => none, nofun⟩⟩

end Task

namespace Upkeep

variable {collection : String}

theorem heeds_inspect (name : String) :
    (inspect name).Heeds collection (fun _ => False) fun observed kind =>
      name = collection ∧ ∃ o configured, observed = some o ∧
        kind = (IndexStatus.judge configured o).effective := by
  refine ⟨trivial, fun r => ⟨?_, fun drops => nomatch drops.1⟩⟩
  cases r with
  | error cause =>
    -- a collection that is not there has no index to show
    rintro kind ends
    split at ends
    · obtain ⟨-, o, configured, none, -⟩ := ends
      cases none
    · exact ends.elim
  | ok reply =>
    rintro kind ⟨rfl, o, configured, shown, rfl⟩ db sound replied
    exact Database.carries_of_listed sound (Prod.ext replied rfl) shown configured

theorem careful_inspect (name : String) : (inspect name).Careful collection :=
  (heeds_inspect name).careful

theorem heeds_settle (name : String) (d : IndexDescriptor) (observed : Option ObservedIndex) :
    (settle name d observed).Heeds collection (fun kind => name = collection ∧
      ∃ o configured, observed = some o ∧ kind = (IndexStatus.judge configured o).effective)
      fun status kind => name = collection ∧ kind = status.effective := by
  cases observed with
  | none =>
    have created : (Task.call (.command (d.createCommand name))).Heeds collection
        (fun kind => name = collection ∧ ∃ o configured, none = some o ∧
          kind = (IndexStatus.judge configured o).effective)
        (fun _ kind => name = collection ∧ kind = d.kind) := by
      refine Task.heeds_call rfl ?_
      rintro reply kind ⟨rfl, rfl⟩ db sound replied
      exact Database.carries_of_created sound (Prod.ext replied rfl)
    exact created.bind fun _ => Task.heeds_pure _ fun _ shows => shows
  | some o =>
    exact Task.heeds_pure _ fun kind ⟨same, shows⟩ => ⟨same, o, d.kind, rfl, shows⟩

theorem careful_ensure (name : String) (d : IndexDescriptor) :
    (ensure name d).Careful collection := by
  refine (Task.careful_verdict name).bind fun known => ?_
  cases known with
  | some status => exact Task.careful_ofResult (.ok status)
  | none =>
    refine (heeds_inspect name).bind fun observed => ?_
    refine (heeds_settle name d observed).bind fun status => ?_
    exact Task.heeds_remember fun same => ⟨same, rfl⟩

end Upkeep

namespace VectorStore

variable {collection : String} (v : VectorStore)

theorem careful_deleteCollection (name : String) :
    (v.deleteCollection name).Careful collection := by
  refine ⟨trivial, fun r => ?_⟩
  cases r with
  | error cause => exact ⟨fun _ none => none.elim, fun drops => nomatch drops.2⟩
  | ok _ =>
    exact ⟨⟨trivial, fun _ => ⟨fun _ none => none, nofun⟩⟩, fun drops => beq_iff_eq.mp drops.1⟩

end VectorStore

theorem Operation.careful_task (v : VectorStore) (o : Operation) (collection : String) :
    (o.task v).Careful collection := by
  refine o.task_of_parts (Task.closed_careful collection) v (Upkeep.careful_inspect ·)
    (fun _ _ _ => Upkeep.careful_ensure _ _) (fun _ _ => v.careful_deleteCollection _)
    fun c makes => Task.careful_call ?_
  -- the calls an operation makes by itself drop nothing
  cases o with
  | ensureIndex | deleteCollection _ => cases makes
  | insert _ _ _ => obtain ⟨ds, -, rfl⟩ := makes; rfl
  | search _ _ _ | list _ _ | update _ _ => obtain ⟨_, rfl⟩ := makes; rfl
  | sweep _ => rcases makes with rfl | rfl <;> rfl
  | _ => cases makes; rfl

namespace VectorStore

/-- Operations of one adapter, carried out by turns: the schedule says which takes its next step. -/
def byTurns (v : VectorStore) (ops : List Operation) (schedule : List Nat) (w : World Database) :
    List (Program (Result Unit)) × World Database :=
  Pool.follow schedule (ops.map (·.program v)) w

def watchTurns (v : VectorStore) (collection : String) (ops : List Operation)
    (schedule : List Nat) (w : World Database) : Watch :=
  Pool.watch collection schedule (ops.map (·.program v)) w .start

/-- Once all operations are through, a verdict that stands is right unless it was remembered by an
operation that had seen the index before the collection was dropped. -/
theorem verdict_verified (v : VectorStore) (collection : String) (ops : List Operation)
    (schedule : List Nat) (w : World Database) (sound : w.store.Sound)
    (verified : w.Verified collection)
    (finished : ∀ p ∈ (v.byTurns ops schedule w).1, p.result?.isSome = true)
    (fresh : (v.watchTurns collection ops schedule w).stale = false) :
    (v.byTurns ops schedule w).2.Verified collection := by
  have careful : ∀ p ∈ ops.map (·.program v), ∃ ends, p.Heeds collection ends fun _ => False := by
    intro p member
    obtain ⟨o, -, rfl⟩ := List.mem_map.mp member
    exact ⟨_, o.careful_task v collection⟩
  have kept := (Pool.kept_start sound verified careful).follow schedule
  intro status stands
  rcases kept.right fresh status stands with carried | ⟨i, p, here, forgets⟩
  · exact carried
  · -- what is done has nothing left to forget
    have done := finished p (List.mem_of_getElem? here)
    cases p with
    | done a => exact forgets.elim
    | step s next => cases done

theorem verdict_verified_beside_reset :
    (∀ p ∈ (byTurns ⟨⟨"memories", 1, .diskann, 0, 50⟩⟩ [.ensureIndex, .reset, .ensureIndex]
        [0, 0, 0, 0, 1, 1, 2, 1, 2, 1, 2, 1, 2, 1, 1] ⟨.empty, .empty⟩).1,
          p.result?.isSome = true) ∧
      (watchTurns ⟨⟨"memories", 1, .diskann, 0, 50⟩⟩ "memories" [.ensureIndex, .reset, .ensureIndex]
        [0, 0, 0, 0, 1, 1, 2, 1, 2, 1, 2, 1, 2, 1, 1] ⟨.empty, .empty⟩).stale = false ∧
      ((byTurns ⟨⟨"memories", 1, .diskann, 0, 50⟩⟩ [.ensureIndex, .reset, .ensureIndex]
        [0, 0, 0, 0, 1, 1, 2, 1, 2, 1, 2, 1, 2, 1, 1] ⟨.empty, .empty⟩).2.verdicts.get?
          "memories").isSome = true ∧
      (byTurns ⟨⟨"memories", 1, .diskann, 0, 50⟩⟩ [.ensureIndex, .reset, .ensureIndex]
        [0, 0, 0, 0, 1, 1, 2, 1, 2, 1, 2, 1, 2, 1, 1] ⟨.empty, .empty⟩).2.Verified
          "memories" :=
  ⟨by decide +kernel, by decide +kernel, by decide +kernel,
    verdict_verified _ _ _ _ _ Database.sound_empty (fun _ none => nomatch none)
      (by decide +kernel) (by decide +kernel)⟩

/-- The collection is dropped after its index has been made and before the verdict is remembered,
which then stands although the collection is gone. -/
theorem verdict_survives_drop :
    (∀ p ∈ (byTurns ⟨⟨"memories", 1, .diskann, 0, 50⟩⟩ [.ensureIndex, .deleteCollection "memories"]
        [0, 0, 0, 1, 1, 0] ⟨.empty, .empty⟩).1, p.result?.isSome = true) ∧
      (byTurns ⟨⟨"memories", 1, .diskann, 0, 50⟩⟩ [.ensureIndex, .deleteCollection "memories"]
        [0, 0, 0, 1, 1, 0] ⟨.empty, .empty⟩).2.verdicts.get? "memories" =
          some ⟨.diskann, .created, .diskann, some 1⟩ ∧
      ((byTurns ⟨⟨"memories", 1, .diskann, 0, 50⟩⟩ [.ensureIndex, .deleteCollection "memories"]
        [0, 0, 0, 1, 1, 0] ⟨.empty, .empty⟩).2.store.find? "memories").isNone = true := by
  decide +kernel

end VectorStore

end MemoryBank
