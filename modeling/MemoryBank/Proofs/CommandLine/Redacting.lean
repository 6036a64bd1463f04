import Mathlib.Data.List.TakeWhile
import MemoryBank.CommandLine.Run

set_option autoImplicit false

/-!
What the printed configuration tells of a password. Main statement: the part from its first at sign
on, and nothing else; a password without an at sign is hidden.
-/

namespace MemoryBank

namespace Text

/-- A text is split in front of the first separator, which must not overlap with what comes
before. -/
theorem splitFirst_append {front before : List Char} {last : Char}
    (apart : ¬front ++ [last] <:+: before ++ front) (after : List Char) :
    splitFirst (front ++ [last]) (before ++ front ++ last :: after) = some (before, after) := by
  induction before with
  | nil =>
    have starts : front ++ [last] <+: front ++ last :: after := ⟨after, by simp⟩
    cases front with
    | nil => simp [splitFirst]
    | cons c rest =>
      simp only [List.nil_append, List.cons_append] at starts ⊢
      rw [splitFirst, if_pos (List.isPrefixOf_iff_prefix.mpr starts)]
      simp
  | cons c before ih =>
    have behind : ¬front ++ [last] <:+: before ++ front := fun inside =>
      apart (inside.trans (List.suffix_cons c _).isInfix)
    have here : ¬front ++ [last] <+: c :: (before ++ front ++ last :: after) := by
      intro starts
      have whole : c :: (before ++ front) <+: c :: (before ++ front ++ last :: after) :=
        ⟨last :: after, rfl⟩
      have short : (front ++ [last]).length ≤ (c :: (before ++ front)).length := by simp
      exact apart (List.prefix_of_prefix_length_le starts whole short).isInfix
    rw [List.cons_append, List.cons_append, splitFirst,
      if_neg (mt List.isPrefixOf_iff_prefix.mp here), ih behind]
    rfl

theorem splitFirst_single {separator : Char} {before : List Char} (h : separator ∉ before)
    (after : List Char) :
    splitFirst [separator] (before ++ separator :: after) = some (before, after) := by
  have apart : ¬[] ++ [separator] <:+: before ++ [] := by
    rw [List.append_nil]
    exact fun inside => h (inside.subset (List.mem_singleton_self separator))
  simpa using splitFirst_append apart after

end Text

namespace Report

variable {scheme user : String}

/-- An address that names a user and a password. -/
def address (scheme user password host : String) : String :=
  scheme ++ "://" ++ user ++ ":" ++ password ++ "@" ++ host

/-- The scheme and the user end where their separators first occur. -/
structure Separable (scheme user : String) : Prop where
  scheme : ¬"://".toList <:+: scheme.toList
  colon : ':' ∉ user.toList
  atSign : '@' ∉ user.toList

/-- What is shown of a password: the part from its first at sign on. -/
def exposed (password : String) : String := String.ofList (password.toList.dropWhile (· != '@'))

theorem exposed_eq_empty {password : String} : exposed password = "" ↔ '@' ∉ password.toList := by
  rw [exposed, ← String.toList_inj, String.toList_ofList, String.toList_empty,
    List.dropWhile_eq_nil_iff]
  constructor
  · intro others member
    exact absurd (others '@' member) (by decide)
  · intro missing c member
    exact bne_iff_ne.mpr fun same => missing (same ▸ member)

theorem address_inj {host p q : String} :
    address scheme user p host = address scheme user q host ↔ p = q := by
  simp [address, ← String.toList_inj]

theorem splitFirst_scheme (apart : ¬"://".toList <:+: scheme.toList) (rest : List Char) :
    Text.splitFirst "://".toList (scheme.toList ++ "://".toList ++ rest) =
      some (scheme.toList, rest) := by
  have outside : ¬"://".toList <:+: scheme.toList ++ [':'] ++ ['/'] := by
    rw [List.infix_concat_iff, List.infix_concat_iff]
    -- from behind, a separator that reached into the next one would start with another character
    rintro (overlap | overlap | inside)
    · simpa using List.reverse_prefix.mpr overlap
    · simpa using List.reverse_prefix.mpr overlap
    · exact apart inside
  have apart : ¬[':', '/'] ++ ['/'] <:+: scheme.toList ++ [':', '/'] := by simpa using outside
  simpa using Text.splitFirst_append apart rest

/-- The first at sign behind a password begins what is shown of it, or is the one that ends it. -/
theorem exists_behind_at (password host : List Char) :
    ∃ behind, password ++ '@' :: host = password.takeWhile (· != '@') ++ '@' :: behind ∧
      password.dropWhile (· != '@') ++ '@' :: host = '@' :: behind := by
  have whole := List.takeWhile_append_dropWhile (p := (· != '@')) (l := password)
  have first := List.head?_dropWhile_not (· != '@') password
  cases shown : password.dropWhile (· != '@') with
  | nil =>
    rw [shown, List.append_nil] at whole
    exact ⟨host, by rw [whole], rfl⟩
  | cons c more =>
    obtain rfl : c = '@' := by simpa [shown] using first
    rw [shown] at whole
    refine ⟨more ++ '@' :: host, ?_, rfl⟩
    rw [← List.cons_append, ← List.append_assoc, whole]

theorem redacted_address (separable : Separable scheme user) (password host : String) :
    redacted (address scheme user password host) =
      address scheme user ("***" ++ exposed password) host := by
  obtain ⟨behind, cut, shown⟩ := exists_behind_at password.toList host.toList
  have front : '@' ∉ user.toList ++ ':' :: password.toList.takeWhile (· != '@') := by
    rw [List.mem_append, List.mem_cons]
    rintro (member | ⟨⟨⟩⟩ | member)
    · exact separable.atSign member
    · exact absurd (List.mem_takeWhile_imp member) (by decide)
  have parts : (address scheme user password host).toList =
      scheme.toList ++ "://".toList ++ (user.toList ++ ':' :: password.toList.takeWhile (· != '@')
        ++ '@' :: behind) := by
    simp [address, cut]
  have name : (user.toList ++ ':' :: password.toList.takeWhile (· != '@')).takeWhile (· != ':') =
      user.toList := by
    rw [List.takeWhile_append_of_pos, List.takeWhile_cons_of_neg (by decide), List.append_nil]
    exact fun c member => bne_iff_ne.mpr fun same => separable.colon (same ▸ member)
  rw [redacted, parts, splitFirst_scheme separable.scheme]
  simp only [Text.splitFirst_single front, name]
  rw [← String.toList_inj]
  simp [address, exposed, ← shown]

theorem config_congr (directory : String) (c : Config) {a b : String}
    (same : redacted a = redacted b) :
    config directory { c with storeUri := a } = config directory { c with storeUri := b } := by
  simp only [config, same]

/-- Of the password in the address the printed configuration shows the part from the first at sign
on. Two passwords are both hidden exactly if neither has an at sign. They are shown alike exactly if
these parts are the same, and then the whole command does the same with both. -/
theorem config_shows_exposed (separable : Separable scheme user) (host p q : String) :
    redacted (address scheme user p host) = address scheme user ("***" ++ exposed p) host ∧
      (redacted (address scheme user p host) = address scheme user "***" host ∧
          redacted (address scheme user q host) = address scheme user "***" host ↔
        '@' ∉ p.toList ∧ '@' ∉ q.toList) ∧
      (redacted (address scheme user p host) = redacted (address scheme user q host) ↔
        exposed p = exposed q) ∧
      (exposed p = exposed q → ∀ (i : Invocation) (c : Config) (directory : String) (present : Int),
        i.command = .config → i.flags.json = false →
          i.work { c with storeUri := address scheme user p host } directory present =
            i.work { c with storeUri := address scheme user q host } directory present) := by
  have shown := redacted_address separable
  have hidden (password : String) :
      redacted (address scheme user password host) = address scheme user "***" host ↔
        '@' ∉ password.toList := by
    rw [shown, address_inj, ← exposed_eq_empty, String.append_eq_left_iff]
  have alike : redacted (address scheme user p host) = redacted (address scheme user q host) ↔
      exposed p = exposed q := by
    rw [shown, shown, address_inj, String.append_right_inj]
  refine ⟨shown p host, and_congr (hidden p) (hidden q), alike, ?_⟩
  intro same i c directory present asked text
  have printed := config_congr directory c (alike.mpr same)
  simp only [Invocation.work, asked, text, Bool.false_eq_true, if_false, printed]

theorem config_shows_exposed_separators :
    Separable "db" "user" ∧
      exposed "a:b/c://d" = exposed "" ∧
      redacted (address "db" "user" "a:b/c://d" "host") = "db://user:***@host" ∧
      redacted (address "db" "user" "" "host") = "db://user:***@host" ∧
      ∀ (c : Config) (present : Int),
        Invocation.work ⟨⟨false, false, 0, none⟩, .config⟩
            { c with storeUri := address "db" "user" "a:b/c://d" "host" } "/cfg" present =
          Invocation.work ⟨⟨false, false, 0, none⟩, .config⟩
            { c with storeUri := address "db" "user" "" "host" } "/cfg" present := by
  have separable : Separable "db" "user" := ⟨by decide, by decide, by decide⟩
  obtain ⟨-, hidden, alike, work⟩ := config_shows_exposed separable "host" "a:b/c://d" ""
  obtain ⟨first, second⟩ := hidden.mpr (by decide)
  have same := alike.mp (first.trans second.symm)
  exact ⟨separable, same, first, second, fun c present => work same _ c "/cfg" present rfl rfl⟩

/-- A password with an at sign is shown from there on. -/
theorem password_end_shown :
    Separable "db" "user" ∧ '@' ∉ "host".toList ∧
      redacted (address "db" "user" "pass@word" "host") = "db://user:***@word@host" ∧
      redacted (address "db" "user" "pass@word" "host") ≠ address "db" "user" "***" "host" ∧
      redacted (address "db" "user" "pass@word" "host") ≠
        redacted (address "db" "user" "password" "host") :=
  ⟨⟨by decide, by decide, by decide⟩, by decide, by decide, by decide, by decide⟩

end Report

end MemoryBank
