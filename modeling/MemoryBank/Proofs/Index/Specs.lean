import MemoryBank.Index.Status
import MemoryBank.Proofs.Fallible
import MemoryBank.Proofs.Json.Equality

set_option autoImplicit false

/-!
Which vector index a valid spec describes, and how it shows in what a store reports.
-/

namespace MemoryBank

namespace IndexSpec

/-- The spec of a vector index of this kind on the vectors of memories. -/
structure Describes (spec : Document) (kind : IndexKind) : Prop where
  marked : (field? (spec.get? "key") vectorPath).any isMark = true
  named : field? (spec.get? vectorOptionsKey) "kind" = some (.string kind.storeName)

theorem storeName_ne_empty (kind : IndexKind) : kind.storeName ≠ "" := by
  cases kind <;> decide

theorem kind_of_validateOptions {options : Object} (valid : validateOptions options = .ok ()) :
    ∃ kind : IndexKind, options.get? "kind" = some (.string kind.storeName) := by
  unfold validateOptions at valid
  cases known : IndexKind.ofStoreName? (textOf options "kind") with
  | none =>
    rw [known] at valid
    cases valid
  | some kind =>
    have name := IndexKind.storeName_of_ofStoreName? known
    refine ⟨kind, ?_⟩
    unfold textOf at name
    cases entry : options.get? "kind" with
    | none =>
      rw [entry] at name
      exact absurd name (storeName_ne_empty kind)
    | some v =>
      rw [entry] at name
      cases v with
      | string text => rw [name]; rfl
      | null | bool _ | number _ | array _ | object _ =>
        exact absurd name (storeName_ne_empty kind)

theorem validate_eq_ok {spec : Document} (valid : validate spec = .ok ()) :
    ∃ e key, spec.get? "key" = some (.object (e :: key)) ∧
      ((e :: key).any (isMark ·.2) = true →
        ∃ options, spec.get? vectorOptionsKey = some (.object options) ∧
          validateOptions options = .ok ()) := by
  unfold validate at valid
  simp only at valid
  split at valid
  · cases valid
  split at valid
  · next e key keyed =>
    refine ⟨e, key, keyed, fun marked => ?_⟩
    simp only [marked, if_true] at valid
    split at valid
    · next options given => exact ⟨options, given, valid⟩
    · cases valid
  · cases valid

theorem field?_eq_some {v : Option Json} {name : String} {field : Json} :
    field? v name = some field ↔ ∃ o, v = some (.object o) ∧ Object.get? o name = some field := by
  constructor
  · intro found
    unfold field? at found
    split at found
    · next o => exact ⟨o, rfl, found⟩
    · cases found
  · rintro ⟨o, rfl, found⟩
    exact found

theorem exists_describes {spec : Document} (valid : validate spec = .ok ())
    (marked : (field? (spec.get? "key") vectorPath).any isMark = true) :
    ∃ kind, Describes spec kind := by
  obtain ⟨v, entry, mark⟩ := (Option.any_eq_true _ _).mp marked
  obtain ⟨key, keyed, entry⟩ := field?_eq_some.mp entry
  obtain ⟨e, rest, given, described⟩ := validate_eq_ok valid
  obtain rfl : key = e :: rest := Json.object.inj (Option.some.inj (keyed.symm.trans given))
  obtain ⟨options, given, checked⟩ :=
    described (List.any_eq_true.mpr ⟨(vectorPath, v), Object.mem_of_get? entry, mark⟩)
  obtain ⟨kind, named⟩ := kind_of_validateOptions checked
  exact ⟨kind, marked, field?_eq_some.mpr ⟨options, given, named⟩⟩

theorem vectorPath?_of_vectorIndex? {spec : Document} {index : VectorIndex}
    (read : vectorIndex? spec = some index) : vectorPath? spec = some index.path := by
  unfold vectorIndex? at read
  obtain ⟨path, keyed, read⟩ := Option.bind_eq_some_iff.mp read
  simp only [Option.bind_eq_bind, Option.bind_eq_some_iff, Option.pure_def,
    Option.some.injEq] at read
  obtain ⟨_, -, _, -, _, -, _, -, _, -, _, -, _, -, _, -, rfl⟩ := read
  exact keyed

theorem describes_spec (d : IndexDescriptor) : Describes d.spec d.kind where
  marked := rfl
  named := rfl

/-- A valid spec that equals the one of a descriptor describes an index of that kind. -/
theorem describes_of_same {existing : Document} {d : IndexDescriptor}
    (valid : validate existing = .ok ()) (equal : existing.same d.spec = true) :
    Describes existing d.kind := by
  have entries : Json.sameEntries existing d.spec = true := (Bool.and_eq_true_iff.mp equal).2
  -- a valid spec has a key with an entry, and the only one in the key of the other is the mark
  obtain ⟨⟨k, v⟩, rest, keyed, -⟩ := validate_eq_ok valid
  have first : Object.get? ((k, v) :: rest) k = some v := by rw [Object.get?_cons, if_pos rfl]
  obtain ⟨w, known, same⟩ := Json.exists_same_of_get? entries keyed
  obtain rfl : Json.object [(vectorPath, .string vectorMark)] = w := Option.some.inj known
  obtain ⟨w, here, same⟩ := Json.exists_same_of_get? (Bool.and_eq_true_iff.mp same).2 first
  rw [Object.get?_cons] at here
  split at here
  case isFalse => cases here
  next path =>
    obtain rfl := Option.some.inj here
    have entry : field? (existing.get? "key") vectorPath = some v :=
      field?_eq_some.mpr ⟨_, keyed, path.symm ▸ first⟩
    have marked : (field? (existing.get? "key") vectorPath).any isMark = true := by
      rw [entry, Json.eq_of_same_string same]
      rfl
    obtain ⟨kind, described⟩ := exists_describes valid marked
    obtain ⟨options, given, named⟩ := field?_eq_some.mp described.named
    obtain ⟨w, known, same⟩ := Json.exists_same_of_get? entries given
    obtain rfl := Option.some.inj known
    obtain ⟨w, known, same⟩ := Json.exists_same_of_get? (Bool.and_eq_true_iff.mp same).2 named
    obtain rfl : Json.string d.kind.storeName = w := Option.some.inj known
    have name := Json.string.inj (Json.eq_of_same_string same)
    have kinds := congrArg IndexKind.ofStoreName? name
    rw [IndexKind.ofStoreName?_storeName, IndexKind.ofStoreName?_storeName] at kinds
    exact Option.some.inj kinds ▸ described

theorem ofValues_eq_ok {values : List Json} {specs : List Document}
    (read : ofValues values = .ok specs) :
    values = specs.map .object ∧ ∀ spec ∈ specs, validate spec = .ok () := by
  induction values generalizing specs with
  | nil =>
    obtain rfl := Except.ok.inj read
    exact ⟨rfl, fun _ none => by cases none⟩
  | cons v rest ih =>
    obtain ⟨spec, others, first, behind, rfl⟩ := Fallible.mapM_cons_eq_ok.mp read
    obtain ⟨rfl, valid⟩ := ih behind
    cases v with
    | object entries =>
      obtain ⟨_, checked, value⟩ := Fallible.bind_eq_ok.mp first
      obtain rfl := Except.ok.inj value
      exact ⟨rfl, List.forall_mem_cons.mpr ⟨checked, valid⟩⟩
    | null | bool _ | number _ | string _ | array _ => cases first

end IndexSpec

theorem ObservedIndex.ofSpec?_eq_some {spec : Document} {observed : ObservedIndex}
    (read : ofSpec? (.object spec) = some observed) :
    (IndexSpec.field? (spec.get? "key") vectorPath).any IndexSpec.isMark = true ∧
      observed.kind =
        ((IndexSpec.field? (spec.get? vectorOptionsKey) "kind").bind (·.string?)).getD "" := by
  unfold ofSpec? at read
  simp only at read
  split at read
  · next marked => exact ⟨marked, (Option.some.inj read) ▸ rfl⟩
  · cases read

theorem IndexStatus.effective_judge {observed : ObservedIndex} {kind : IndexKind}
    (named : observed.kind = kind.storeName) (configured : IndexKind) :
    (judge configured observed).effective = kind := by
  unfold judge
  simp only [named, IndexKind.ofStoreName?_storeName, Option.some.injEq]
  split
  · next same => exact same.symm
  · rfl

theorem IndexSpec.describes_judge {spec : Document} {observed : ObservedIndex}
    (valid : validate spec = .ok ()) (read : ObservedIndex.ofSpec? (.object spec) = some observed)
    (configured : IndexKind) :
    Describes spec (IndexStatus.judge configured observed).effective := by
  obtain ⟨marked, shown⟩ := ObservedIndex.ofSpec?_eq_some read
  obtain ⟨kind, described⟩ := exists_describes valid marked
  rw [IndexStatus.effective_judge (shown.trans (by rw [described.named]; rfl))]
  exact described

end MemoryBank
