import MemoryBank.Proofs.Store.Modifiers

set_option autoImplicit false

/-!
Looking up, setting and erasing go the same way along a path. Main statement: what is set at a path
is found there, what is erased is not, and what lies beside the path is not touched; setting fails
exactly if a value that is no document stands in the way, and leaves the document as it was.
-/

namespace MemoryBank

/-- Neither path leads to the other or through it. -/
def Path.Apart (path other : Path) : Prop := ¬path <+: other ∧ ¬other <+: path

instance (path other : Path) : Decidable (path.Apart other) := inferInstanceAs (Decidable (_ ∧ _))

namespace Path

variable {path other : Path} {field key : String}

theorem not_apart_nil (other : Path) : ¬Apart [] other := fun apart => apart.1 List.nil_prefix

theorem Apart.symm (apart : path.Apart other) : other.Apart path := ⟨apart.2, apart.1⟩

theorem apart_cons : Apart (field :: path) (field :: other) ↔ path.Apart other := by
  simp [Apart, List.cons_prefix_cons]

end Path

namespace Object

variable {o o' : Object} {path other : Path} {field key : String} {v w : Json}

/-- Under a field there is a document to go into, if only an empty one, or a value that is none. -/
theorem under_or_blocked (o : Object) (field : String) :
    (∃ inner : Object, (o.get? field).getD (.object []) = .object inner) ∨
      ∃ v, o.get? field = some v ∧ v.object? = none := by
  cases found : o.get? field with
  | none => exact .inl ⟨[], rfl⟩
  | some v =>
    cases v with
    | object inner => exact .inl ⟨inner, rfl⟩
    | null | bool _ | number _ | string _ | array _ => exact .inr ⟨_, rfl, rfl⟩

theorem getPath?_of_value (reaches : path ≠ []) (held : o.get? key = some v)
    (other : v.object? = none) : o.getPath? (key :: path) = none := by
  refine getPath?_blocked reaches ?_
  rintro inner same
  cases held.symm.trans same
  cases other

/-- A missing document is looked into as an empty one. -/
theorem getPath?_under {inner : Object} (reaches : path ≠ [])
    (under : (o.get? key).getD (.object []) = .object inner) :
    o.getPath? (key :: path) = inner.getPath? path := by
  rcases get?_of_under under with held | ⟨missing, rfl⟩
  · exact getPath?_object reaches held
  · rw [getPath?_nil, getPath?_blocked reaches (by simp [missing])]

theorem insert_of_get? (found : o.get? key = some v) : o.insert key v = o := by
  induction o with
  | nil => cases found
  | cons e rest ih =>
    obtain ⟨k, x⟩ := e
    rw [get?_cons] at found
    rw [insert]
    split at found
    · next same => rw [if_pos same, Option.some.inj found]
    · next other => rw [if_neg other, ih found]

theorem get?_erase_self (distinct : o.keys.Nodup) (key : String) :
    (o.erase key).get? key = none := by
  rw [get?_eq_none]
  intro member
  obtain ⟨e, kept, same⟩ := List.mem_map.mp member
  have other := (List.mem_filter.mp ((erase_perm distinct key).mem_iff.mp kept)).2
  simp [same] at other

/-- The value at the path is this, and beside the path all is found as before. -/
structure ChangedAt (o o' : Object) (path : Path) (value : Option Json) : Prop where
  there : o'.getPath? path = value
  beside : ∀ other, path.Apart other → o'.getPath? other = o.getPath? other

/-- What is done in a document under a key shows on all paths through the key. -/
theorem ChangedAt.under {inner inner' : Object} {value : Option Json} (reaches : path ≠ [])
    (under : (o.get? key).getD (.object []) = .object inner)
    (below : inner.ChangedAt inner' path value) :
    o.ChangedAt (o.insert key (.object inner')) (key :: path) value where
  there := (getPath?_object reaches (get?_insert_self ..)).trans below.there
  beside other apart := by
    cases other with
    | nil => exact absurd apart.symm (Path.not_apart_nil _)
    | cons field rest =>
      by_cases same : key = field
      · subst same
        have apart := Path.apart_cons.mp apart
        have goes : rest ≠ [] := fun none => Path.not_apart_nil path (none ▸ apart.symm)
        rw [getPath?_object goes (get?_insert_self ..), getPath?_under goes under]
        exact below.beside rest apart
      · exact getPath?_congr (get?_insert_of_ne o _ same) rest

/-- A change of one field shows on no path that starts with another. -/
theorem ChangedAt.single {value : Option Json} (there : o'.get? key = value)
    (others : ∀ field, key ≠ field → o'.get? field = o.get? field) :
    o.ChangedAt o' [key] value where
  there := there
  beside other apart := by
    cases other with
    | nil => exact absurd apart.symm (Path.not_apart_nil _)
    | cons field rest =>
      have away : key ≠ field := by
        rintro rfl
        exact Path.not_apart_nil rest (Path.apart_cons.mp apart)
      exact getPath?_congr (others field away) rest

theorem changedAt_setPath (reaches : path ≠ []) (set : o.setPath v path = .ok o') :
    o.ChangedAt o' path (some v) := by
  induction path generalizing o o' with
  | nil => exact absurd rfl reaches
  | cons field rest ih =>
    cases rest with
    | nil =>
      obtain rfl := Except.ok.inj set
      exact .single (get?_insert_self ..) fun _ away => get?_insert_of_ne o v away
    | cons next rest =>
      obtain ⟨inner, inner', under, below, rfl⟩ := exists_of_setPath set
      exact .under (List.cons_ne_nil _ _) under (ih (List.cons_ne_nil _ _) below)

theorem changedAt_erasePath (valid : o.WellFormed) (path : Path) :
    o.ChangedAt (o.erasePath path) path none := by
  induction path generalizing o with
  | nil => exact ⟨rfl, fun other apart => absurd apart (Path.not_apart_nil other)⟩
  | cons field rest ih =>
    cases rest with
    | nil => exact .single (get?_erase_self valid.1 field) fun _ => get?_erase_of_ne valid.1
    | cons next rest =>
      simp only [erasePath]
      split
      · next inner found =>
        exact .under (List.cons_ne_nil _ _) (by rw [found]; rfl) (ih (valid.of_get? found))
      · next other =>
        -- where no document lies under the field there is nothing to erase
        exact ⟨getPath?_blocked (List.cons_ne_nil _ _) other, fun _ _ => rfl⟩

/-- On the way along the path, which goes on, this field holds a value that is no document. -/
structure Obstructs (o : Object) (path way : Path) (field : String) : Prop where
  front : way ++ [field] <+: path
  proper : way ++ [field] ≠ path
  value : ∃ v, o.getPath? (way ++ [field]) = some v ∧ v.object? = none

theorem not_obstructs_single {way : Path} {stop : String} : ¬o.Obstructs [field] way stop := by
  rintro ⟨front, proper, -⟩
  refine proper (front.eq_of_length_le ?_)
  simp

theorem obstructs_of_value {next stop : String} {rest way : Path} (held : o.get? field = some v)
    (other : v.object? = none) :
    o.Obstructs (field :: next :: rest) way stop ↔ way = [] ∧ stop = field := by
  constructor
  · rintro ⟨front, -, w, found, -⟩
    cases way with
    | nil => exact ⟨rfl, (List.cons_prefix_cons.mp front).1⟩
    | cons first behind =>
      obtain ⟨rfl, -⟩ := List.cons_prefix_cons.mp front
      cases (getPath?_of_value (by simp) held other).symm.trans found
  · rintro ⟨rfl, rfl⟩
    exact ⟨by simp, by simp, v, held, other⟩

theorem obstructs_under {inner : Object} {next stop : String} {rest way : Path}
    (under : (o.get? field).getD (.object []) = .object inner) :
    o.Obstructs (field :: next :: rest) way stop ↔
      ∃ behind, way = field :: behind ∧ inner.Obstructs (next :: rest) behind stop := by
  constructor
  · rintro ⟨front, proper, v, found, other⟩
    cases way with
    | nil =>
      obtain ⟨rfl, -⟩ := List.cons_prefix_cons.mp front
      rw [show o.get? stop = some v from found] at under
      obtain rfl : v = .object inner := under
      cases other
    | cons first behind =>
      obtain ⟨rfl, below⟩ := List.cons_prefix_cons.mp front
      refine ⟨behind, rfl, below, fun same => proper (congrArg (first :: ·) same), v, ?_, other⟩
      exact (getPath?_under (by simp) under).symm.trans found
  · rintro ⟨behind, rfl, front, proper, v, found, other⟩
    refine ⟨List.cons_prefix_cons.mpr ⟨rfl, front⟩, fun same => proper ?_, v, ?_, other⟩
    · exact (List.cons.inj same).2
    · exact (getPath?_under (by simp) under).trans found

theorem setPath_of_value {next : String} {rest : Path} (held : o.get? field = some w)
    (other : w.object? = none) : o.setPath v (field :: next :: rest) =
      .error (.store (.pathThroughValue ((next :: rest).getLastD "") field)) := by
  cases w with
  | object inner => cases other
  | null | bool _ | number _ | string _ | array _ => simp only [setPath, held]

theorem setPath_under {inner : Object} {next : String} {rest : Path}
    (under : (o.get? field).getD (.object []) = .object inner) :
    o.setPath v (field :: next :: rest) =
      (fun inner' => o.insert field (.object inner')) <$> setPath v inner (next :: rest) := by
  rcases get?_of_under under with held | ⟨missing, rfl⟩
  · simp [setPath, held]
  · simp [setPath, missing]

theorem exists_setPath_nil (v : Json) (path : Path) : ∃ o, setPath v [] path = .ok o := by
  induction path with
  | nil => exact ⟨[], rfl⟩
  | cons field rest ih =>
    cases rest with
    | nil => exact ⟨_, rfl⟩
    | cons next rest =>
      obtain ⟨inner, below⟩ := ih
      exact ⟨_, (setPath_under rfl).trans (congrArg _ below)⟩

/-- Setting fails exactly for a value in the way that is no document, and names its field and the
end of the path. -/
theorem setPath_eq_error_iff {cause : Failure} :
    o.setPath v path = .error cause ↔ ∃ way field, o.Obstructs path way field ∧
      cause = .store (.pathThroughValue (path.getLastD "") field) := by
  induction path generalizing o with
  | nil =>
    refine iff_of_false nofun ?_
    rintro ⟨way, field, blocked, -⟩
    exact absurd (List.prefix_nil.mp blocked.front) (by simp)
  | cons field rest ih =>
    cases rest with
    | nil =>
      refine iff_of_false nofun ?_
      rintro ⟨way, stop, blocked, -⟩
      exact not_obstructs_single blocked
    | cons next rest =>
      rcases under_or_blocked o field with ⟨inner, under⟩ | ⟨w, held, other⟩
      · have below : o.setPath v (field :: next :: rest) = .error cause ↔
            inner.setPath v (next :: rest) = .error cause := by
          rw [setPath_under under]
          cases inner.setPath v (next :: rest) with
          | ok inner' => exact iff_of_false nofun nofun
          | error stopped => exact Iff.rfl
        rw [below, ih]
        constructor
        · rintro ⟨way, stop, blocked, named⟩
          exact ⟨field :: way, stop, (obstructs_under under).mpr ⟨way, rfl, blocked⟩, named⟩
        · rintro ⟨way, stop, blocked, named⟩
          obtain ⟨behind, rfl, below⟩ := (obstructs_under under).mp blocked
          exact ⟨behind, stop, below, named⟩
      · rw [setPath_of_value held other]
        constructor
        · intro failed
          obtain rfl := Except.error.inj failed
          exact ⟨[], field, (obstructs_of_value held other).mpr ⟨rfl, rfl⟩, rfl⟩
        · rintro ⟨way, stop, blocked, rfl⟩
          obtain ⟨-, rfl⟩ := (obstructs_of_value held other).mp blocked
          rfl

/-- What an answer leaves of the object: one that fails leaves it as it was. -/
def leftBy (o : Object) : Result Object → Result Unit × Object
  | .ok o' => (.ok (), o')
  | .error cause => (.error cause, o)

/-- The object with an empty document in the field, if that is missing. -/
def opened (o : Object) (field : String) : Object :=
  if o.contains field then o else o.insert field (.object [])

theorem get?_opened (o : Object) (field : String) :
    (o.opened field).get? field = some ((o.get? field).getD (.object [])) := by
  cases held : o.get? field <;> simp [opened, contains, held]

theorem insert_opened (o : Object) (field : String) (v : Json) :
    (o.opened field).insert field v = o.insert field v := by
  rw [opened]
  split
  · rfl
  · exact insert_insert o field _ v

/-- Setting a path in place. A document that is missing on the way is put in before the walk goes
on, and stays there whatever becomes of it. -/
def writePath (value : Json) : Object → Path → Result Unit × Object
  | o, [] => (.ok (), o)
  | o, [field] => (.ok (), insert o field value)
  | o, field :: rest =>
      match get? (opened o field) field with
      | some (.object inner) =>
          let (answer, inner) := writePath value inner rest
          (answer, insert (opened o field) field (.object inner))
      | _ => (.error (.store (.pathThroughValue (rest.getLastD "") field)), opened o field)

/-- Nothing is put in on a way that turns out to be blocked. -/
theorem writePath_eq (v : Json) (o : Object) (path : Path) :
    o.writePath v path = o.leftBy (o.setPath v path) := by
  induction path generalizing o with
  | nil => rfl
  | cons field rest ih =>
    cases rest with
    | nil => rfl
    | cons next rest =>
      rcases under_or_blocked o field with ⟨inner, under⟩ | ⟨w, held, other⟩
      · rw [setPath_under under]
        simp only [writePath, get?_opened, under, ih, insert_opened]
        cases below : inner.setPath v (next :: rest) with
        | ok inner' => rfl
        | error cause =>
          refine Prod.ext rfl ?_
          rcases get?_of_under under with held | ⟨-, rfl⟩
          · exact insert_of_get? held
          · -- below a new document nothing is in the way
            obtain ⟨inner', done⟩ := exists_setPath_nil v (next :: rest)
            cases done.symm.trans below
      · have known : o.opened field = o := by simp [opened, contains, held]
        rw [setPath_of_value held other]
        cases w with
        | object inner => cases other
        | null | bool _ | number _ | string _ | array _ =>
          simp only [writePath, known, held, leftBy]

/-- The second of two values set at a path stays. -/
theorem setPath_setPath (set : o.setPath v path = .ok o') (w : Json) :
    o'.setPath w path = o.setPath w path := by
  induction path generalizing o o' with
  | nil => rw [← Except.ok.inj set]
  | cons field rest ih =>
    cases rest with
    | nil =>
      obtain rfl := Except.ok.inj set
      exact congrArg Except.ok (insert_insert o field v w)
    | cons next rest =>
      obtain ⟨inner, inner', under, below, rfl⟩ := exists_of_setPath set
      have under' : ((o.insert field (.object inner')).get? field).getD (.object []) =
          .object inner' := by rw [get?_insert_self]; rfl
      rw [setPath_under under', setPath_under under, ih below]
      simp only [insert_insert]

/-- Setting what is there changes nothing. -/
theorem setPath_of_getPath? (found : o.getPath? path = some v) : o.setPath v path = .ok o := by
  induction path generalizing o with
  | nil => cases found
  | cons field rest ih =>
    cases rest with
    | nil => exact congrArg Except.ok (insert_of_get? found)
    | cons next rest =>
      rcases under_or_blocked o field with ⟨inner, under⟩ | ⟨w, held, other⟩
      · have below := (getPath?_under (List.cons_ne_nil _ _) under).symm.trans found
        rcases get?_of_under under with held | ⟨-, rfl⟩
        · rw [setPath_under under, ih below]
          exact congrArg Except.ok (insert_of_get? held)
        · cases (getPath?_nil _).symm.trans below
      · cases (getPath?_of_value (List.cons_ne_nil _ _) held other).symm.trans found

end Object

namespace Document

/-- What is looked up, set and erased by a path is one and the same place of a document. Setting
fails exactly if a value that is no document stands in the way, whose field it names, and an update
that sets the path then leaves the document as it was, also when it is set in place. Otherwise the
value is found there afterwards, and replaces what was set before. Erased, the place is empty. In
both cases nothing that lies beside the path has changed, and to set what is there changes
nothing at all. -/
theorem paths_are_lenses {d : Document} (valid : Object.WellFormed d) (text : String) (v : Json) :
    (∀ cause, d.setPath v (Path.ofText text) = .error cause ↔
      ∃ way field, Object.Obstructs d (Path.ofText text) way field ∧
        cause = .store (.pathThroughValue ((Path.ofText text).getLastD "") field)) ∧
      Object.writePath v d (Path.ofText text) = Object.leftBy d (d.setPath v (Path.ofText text)) ∧
      (text ≠ idKey → Update.setAll [(text, v)] d = Object.writePath v d (Path.ofText text)) ∧
      (∀ d', d.setPath v (Path.ofText text) = .ok d' →
        Object.ChangedAt d d' (Path.ofText text) (some v) ∧
          ∀ w, d'.setPath w (Path.ofText text) = d.setPath w (Path.ofText text)) ∧
      Object.ChangedAt d (d.erasePath (Path.ofText text)) (Path.ofText text) none ∧
      (d.getPath? (Path.ofText text) = some v → d.setPath v (Path.ofText text) = .ok d) := by
  refine ⟨fun cause => Object.setPath_eq_error_iff, Object.writePath_eq v d _, fun other => ?_,
    fun d' set => ?_, Object.changedAt_erasePath valid _, Object.setPath_of_getPath?⟩
  · rw [Object.writePath_eq, Update.setAll, if_neg (show ¬text = "_id" from other)]
    cases d.setPath v (Path.ofText text) <;> rfl
  · exact ⟨Object.changedAt_setPath (Path.ofText_ne_nil text) set, Object.setPath_setPath set⟩

/-- A document with an empty part in one of its paths, and a value at the end of another. -/
def nested : Document :=
  [("a", .object [("", .object [("b", .ofInt 1)]), ("c", .ofInt 2)]), ("n", .ofInt 3)]

theorem paths_are_lenses_nested :
    Object.WellFormed nested ∧
      (∃ d', nested.setPath .null (Path.ofText "a..b") = .ok d' ∧
        d'.getPath? (Path.ofText "a..b") = some .null ∧
        d'.getPath? (Path.ofText "a.c") = some (.ofInt 2)) ∧
      (nested.erasePath (Path.ofText "a..b")).getPath? (Path.ofText "a.c") = some (.ofInt 2) ∧
      (nested.erasePath (Path.ofText "a..b")).getPath? (Path.ofText "a..b") = none ∧
      Update.setAll [("n.x.y", .null)] nested =
        (.error (.store (.pathThroughValue "y" "n")), nested) := by
  have valid : Object.WellFormed nested := by
    simp [Object.WellFormed, Json.WellFormed, Json.WellFormedEntries, nested, Json.ofInt,
      Number.Valid, Number.inRange, Word.half64, Word.bound64]
  have apart : Path.Apart (Path.ofText "a..b") (Path.ofText "a.c") := by decide
  obtain ⟨-, -, -, set, erased, -⟩ := paths_are_lenses valid "a..b" .null
  obtain ⟨fails, left, update, -⟩ := paths_are_lenses valid "n.x.y" .null
  have blocked : Object.Obstructs nested (Path.ofText "n.x.y") [] "n" :=
    ⟨by decide, by decide, .ofInt 3, rfl, rfl⟩
  have failed := (fails _).mpr ⟨[], "n", blocked, rfl⟩
  refine ⟨valid, ⟨_, rfl, ?_⟩, ?_, erased.there, ?_⟩
  · obtain ⟨⟨there, beside⟩, -⟩ := set _ rfl
    exact ⟨there, (beside _ apart).trans rfl⟩
  · exact (erased.beside _ apart).trans rfl
  · rw [update (by decide), left, failed]
    rfl

end Document

end MemoryBank
